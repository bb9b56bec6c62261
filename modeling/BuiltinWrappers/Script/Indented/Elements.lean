import BuiltinWrappers.Script.Indented.Texts

/-!
# Elements

Taking parts out of values and putting others in their places.
-/

namespace BuiltinWrappers.Script.Indented

open Text (Octets)

variable [Evaluator]

namespace Elements

/-! ## Places -/

def placeOf? (count : Nat) (index : Int) : Option Nat :=
  let place := if index < 0 then index + count else index
  if 0 ≤ place ∧ place < count then some place.toNat else none

def sliceBounds (count : Nat) (start stop : Option Int) (step : Int) : Int × Nat :=
  let size : Int := count
  let bound (low high : Int) (value : Int) : Int :=
    max low (min high (if value < 0 then value + size else value))
  if 0 < step then
    let first := (start.map (bound 0 size)).getD 0
    let last := (stop.map (bound 0 size)).getD size
    (first, ((last - first + step - 1) / step).toNat)
  else
    let first := (start.map (bound (-1) (size - 1))).getD (size - 1)
    let last := (stop.map (bound (-1) (size - 1))).getD (-1)
    (first, ((first - last - step - 1) / (-step)).toNat)

def places (first : Int) (amount : Nat) (step : Int) : List Nat :=
  (List.range amount).map fun (index : Nat) => (first + step * index).toNat

def bound? (value : Value) : Eval (Option Int) := do
  match value with
  | .nothing => return none
  | value => return some (← Arguments.asInteger value)

def sliceOf (count : Nat) (start stop step : Value) : Eval (Int × Nat × Int) := do
  let step := (← bound? step).getD 1
  if step = 0 then Eval.valueFault "slice step cannot be zero"
  let (first, amount) := sliceBounds count (← bound? start) (← bound? stop) step
  return (first, amount, step)

def picked {α : Type} (values : List α) (start stop step : Value) : Eval (List α) := do
  let (first, amount, step) ← sliceOf values.length start stop step
  if step = 1 then return (values.drop first.toNat).take amount
  let array := values.toArray
  return (places first amount step).filterMap fun place => array[place]?

/-! ## Taking elements -/

def needIndex (name : String) (index : Value) : Eval Int := do
  match index with
  | .integer number => return number
  | index =>
      match (← Kinds.core index).asInteger? with
      | some number => return number
      | none =>
          match ← Protocol.answer? index "__index__" [] with
          | some (.integer number) => return number
          | _ =>
              Eval.typeFault (name ++ " indices must be integers or slices, not " ++
                (← Kinds.nameOf index))

def elementAt {α : Type} (name : String) (values : List α) (index : Value) : Eval α := do
  match (placeOf? values.length (← needIndex name index)).bind fun place => values[place]? with
  | some value => return value
  | none => Eval.fail "IndexError" (name ++ " index out of range")

def ofOctet (octet : Char) : Value := .ofNat octet.toNat

/-- The element of a value that no family has a say in. -/
def coreElement (object core index : Value) : Eval Value := do
  match core, index with
  | .text characters, .slice start stop step =>
      return .text (← picked characters start stop step)
  | .text characters, index => return .text [← elementAt "string" characters index]
  | .bytes octets, .slice start stop step => return .bytes (← picked octets start stop step)
  | .bytes octets, index => return ofOctet (← elementAt "byte" octets index)
  | .octets address, .slice start stop step => do
      let octets ← picked (← Eval.octetsAt address) start stop step
      return .octets (← Eval.allocate (.octets octets))
  | .octets address, index =>
      return ofOctet (← elementAt "bytearray" (← Eval.octetsAt address) index)
  | .tuple values, .slice start stop step => return .tuple (← picked values start stop step)
  | .tuple values, index => elementAt "tuple" values index
  | .list address, .slice start stop step =>
      Eval.newList (← picked (← Eval.listAt address) start stop step)
  | .list address, index => elementAt "list" (← Eval.listAt address) index
  | .range start _ step, index =>
      let count := (← Protocol.sizeOf? core).getD 0
      match index with
      | .slice first last by_ =>
          let (place, amount, stride) ← sliceOf count first last by_
          let begins := start + step * place
          return .range begins (begins + step * stride * amount) (step * stride)
      | index =>
          match placeOf? count (← needIndex "range" index) with
          | some place => return .integer (start + step * place)
          | none => Eval.fail "IndexError" "range object index out of range"
  | .dictionary address, index =>
      Protocol.needKey index
      match ← Protocol.find? index (← Eval.entriesAt address) with
      | some value => return value
      | none =>
          match ← Protocol.answer? object "__missing__" [index] with
          | some value => return value
          | none => Eval.raise "KeyError" [index]
  | .kind _, _ | .family _, _ => return core
  | _, _ => Eval.typeFault ("'" ++ (← Kinds.nameOf object) ++ "' object is not subscriptable")

def element (object index : Value) : Eval Value := do
  match object with
  | .entity _ =>
      match ← Protocol.answer? object "__getitem__" [index] with
      | some value => return value
      | none => coreElement object (← Kinds.core object) index
  | .family address =>
      match ← Protocol.answer? object "__getitem__" [index] with
      | some value => return value
      | none =>
          match ← Kinds.ownAttribute? (.family address) "__class_getitem__" with
          | some (.ofFamily function) => Protocol.call function [object, index]
          | some function => Protocol.call function [object, index]
          | none => return object
  | object => coreElement object object index

/-! ## Setting elements -/

def withSlice {α : Type} (values : List α) (start stop step : Value) (others : List α) :
    Eval (List α) := do
  let (first, amount, step) ← sliceOf values.length start stop step
  if step = 1 then
    return values.take first.toNat ++ others ++ values.drop (first.toNat + amount)
  if amount ≠ others.length then
    Eval.valueFault ("attempt to assign sequence of size " ++ Nat.repr others.length ++
      " to extended slice of size " ++ Nat.repr amount)
  return (((places first amount step).zip others).foldl
    (fun (values : Array α) (place, value) => values.setIfInBounds place value)
    values.toArray).toList

def octetOf (value : Value) : Eval Char := do
  let number ← Arguments.asInteger value
  if number < 0 ∨ 255 < number then Eval.valueFault "byte must be in range(0, 256)"
  return Char.ofNat number.toNat

def setCoreElement (object core index value : Value) : Eval PUnit := do
  match core, index with
  | .list address, .slice start stop step =>
      let others ← Protocol.items value
      Eval.put address (.list (← withSlice (← Eval.listAt address) start stop step others))
  | .list address, index =>
      let values ← Eval.listAt address
      match placeOf? values.length (← needIndex "list" index) with
      | some place => Eval.put address (.list (values.set place value))
      | none => Eval.fail "IndexError" "list assignment index out of range"
  | .octets address, .slice start stop step =>
      let others ← (← Protocol.items value).mapM octetOf
      Eval.put address (.octets (← withSlice (← Eval.octetsAt address) start stop step others))
  | .octets address, index =>
      let octets ← Eval.octetsAt address
      match placeOf? octets.length (← needIndex "bytearray" index) with
      | some place => Eval.put address (.octets (octets.set place (← octetOf value)))
      | none => Eval.fail "IndexError" "bytearray index out of range"
  | .dictionary address, index =>
      Eval.putEntries address (← Protocol.insert index value (← Eval.entriesAt address))
  | _, _ =>
      Eval.typeFault ("'" ++ (← Kinds.nameOf object) ++
        "' object does not support item assignment")

def setElement (object index value : Value) : Eval PUnit := do
  match ← Protocol.answer? object "__setitem__" [index, value] with
  | some _ => pure ()
  | none => setCoreElement object (← Kinds.core object) index value

/-! ## Removing elements -/

def withoutPlaces {α : Type} (values : List α) (places : List Nat) : List α :=
  values.zipIdx.filterMap fun (value, index) => if places.contains index then none else some value

def removeCoreElement (object core index : Value) : Eval PUnit := do
  match core, index with
  | .list address, .slice start stop step =>
      let values ← Eval.listAt address
      let (first, amount, step) ← sliceOf values.length start stop step
      Eval.put address (.list (withoutPlaces values (places first amount step)))
  | .list address, index =>
      let values ← Eval.listAt address
      match placeOf? values.length (← needIndex "list" index) with
      | some place => Eval.put address (.list (values.eraseIdx place))
      | none => Eval.fail "IndexError" "list assignment index out of range"
  | .octets address, .slice start stop step =>
      let octets ← Eval.octetsAt address
      let (first, amount, step) ← sliceOf octets.length start stop step
      Eval.put address (.octets (withoutPlaces octets (places first amount step)))
  | .octets address, index =>
      let octets ← Eval.octetsAt address
      match placeOf? octets.length (← needIndex "bytearray" index) with
      | some place => Eval.put address (.octets (octets.eraseIdx place))
      | none => Eval.fail "IndexError" "bytearray index out of range"
  | .dictionary address, index =>
      let entries ← Eval.entriesAt address
      if (← Protocol.find? index entries).isNone then Eval.raise "KeyError" [index]
      Eval.putEntries address (← Protocol.erase index entries)
  | _, _ =>
      Eval.typeFault ("'" ++ (← Kinds.nameOf object) ++
        "' object doesn't support item deletion")

def removeElement (object index : Value) : Eval PUnit := do
  match ← Protocol.answer? object "__delitem__" [index] with
  | some _ => pure ()
  | none => removeCoreElement object (← Kinds.core object) index

/-! ## Containing -/

def comesTo (value source : Value) : (fuel : Nat) → Eval Bool
  | 0 => throw .exhausted
  | fuel + 1 => do
      match ← Evaluator.next source with
      | none => return false
      | some other =>
          if ← Protocol.contains value [other] then return true else comesTo value source fuel

def coreContains (container core value : Value) : Eval Bool := do
  match core with
  | .text whole =>
      match ← Kinds.core value with
      | .text part => return (Texts.place? part whole).isSome
      | value =>
          Eval.typeFault ("'in <string>' requires string as left operand, not " ++ value.plainKind)
  | .bytes _ | .octets _ =>
      let whole := (← Protocol.octetsOf? core).getD []
      return (Texts.place? (← Texts.charactersOf true value) whole).isSome
  | .tuple values => Protocol.contains value values
  | .list address => Protocol.contains value (← Eval.listAt address)
  | .set address | .frozenSet address =>
      Protocol.needKey value
      Protocol.contains value (← Eval.listAt address)
  | .dictionary address | .view .keys address =>
      Protocol.needKey value
      return (← Protocol.find? value (← Eval.entriesAt address)).isSome
  | .range start _ step =>
      match value.asInteger? with
      | some number =>
          let count := (← Protocol.sizeOf? core).getD 0
          let place := (number - start) / step
          return (number - start) % step = 0 && 0 ≤ place && place < count
      | none => return false
  | _ =>
      comesTo value (← Protocol.iterator container) Protocol.mostValues

def contains (container value : Value) : Eval Bool := do
  match ← Protocol.answer? container "__contains__" [value] with
  | some found => Protocol.isTrue found
  | none =>
      match container with
      | .entity _ =>
          if (← Kinds.special? container "__iter__").isSome then
            comesTo value (← Protocol.iterator container) Protocol.mostValues
          else coreContains container (← Kinds.core container) value
      | container => coreContains container container value

end Elements

end BuiltinWrappers.Script.Indented
