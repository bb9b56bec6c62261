import BuiltinWrappers.Script.Indented.Elements

/-!
# Operators

Joining values by operators.  A family may answer by a method of its own, first
that of the left operand and then that of the right one.
-/

namespace BuiltinWrappers.Script.Indented

open Text (Octets)

variable [Evaluator]

namespace Operators

def unsupported {α : Type} (operator : BinaryOperator) (first second : Value) : Eval α := do
  Eval.typeFault ("unsupported operand type(s) for " ++ operator.sign ++ ": '" ++
    (← Kinds.nameOf first) ++ "' and '" ++ (← Kinds.nameOf second) ++ "'")

/-! ## Integers -/

def bothBits (first second : Int) : Int :=
  match first, second with
  | .ofNat one, .ofNat other => Nat.land one other
  | .ofNat one, .negSucc other => (one ^^^ Nat.land one other : Nat)
  | .negSucc one, .ofNat other => (other ^^^ Nat.land one other : Nat)
  | .negSucc one, .negSucc other => .negSucc (Nat.lor one other)

def invertedBits (value : Int) : Int := -value - 1

def eitherBits (first second : Int) : Int :=
  invertedBits (bothBits (invertedBits first) (invertedBits second))

def exclusiveBits (first second : Int) : Int :=
  bothBits (eitherBits first second) (invertedBits (bothBits first second))

def power (base : Int) (exponent : Nat) : Int :=
  let size : Int := Nat.pow base.natAbs exponent
  if base < 0 ∧ exponent % 2 = 1 then -size else size

def mostBits : Nat := 10000000

def zeroDivision {α : Type} (text : String) : Eval α := Eval.fail "ZeroDivisionError" text

def realOf (quotient? : Option Float) : Eval Value := do
  match quotient? with
  | some value => return .real value
  | none => Eval.fail "OverflowError" "integer division result too large for a float"

def onIntegers (operator : BinaryOperator) (first second : Int) : Eval (Option Value) := do
  let done (value : Int) : Eval (Option Value) := return some (.integer value)
  match operator with
  | .add => done (first + second)
  | .subtract => done (first - second)
  | .multiply => done (first * second)
  | .wholeDivide =>
      if second = 0 then zeroDivision "integer division or modulo by zero"
      done (Int.fdiv first second)
  | .remainder =>
      if second = 0 then zeroDivision "integer modulo by zero"
      done (Int.fmod first second)
  | .divide =>
      if second = 0 then zeroDivision "division by zero"
      let numerator := if second < 0 then -first else first
      some <$> realOf (Floating.ofQuotient? numerator second.natAbs)
  | .power =>
      if second < 0 then
        if first = 0 then zeroDivision "0.0 cannot be raised to a negative power"
        let size := power first second.natAbs
        some <$> realOf (Floating.ofQuotient? (if size < 0 then -1 else 1) size.natAbs)
      else if mostBits < second then throw .exhausted
      else done (power first second.toNat)
  | .leftShift =>
      if second < 0 then Eval.valueFault "negative shift count"
      if mostBits < second then throw .exhausted
      done (first * power 2 second.toNat)
  | .rightShift =>
      if second < 0 then Eval.valueFault "negative shift count"
      if mostBits < second then done (if first < 0 then -1 else 0)
      else done (Int.fdiv first (power 2 second.toNat))
  | .both => done (bothBits first second)
  | .either => done (eitherBits first second)
  | .exclusive => done (exclusiveBits first second)
  | .matrixMultiply => return none

/-! ## Floating-point numbers -/

def onReals (operator : BinaryOperator) (first second : Float) : Eval (Option Value) := do
  let done (value : Float) : Eval (Option Value) := return some (.real value)
  match operator with
  | .add => done (first + second)
  | .subtract => done (first - second)
  | .multiply => done (first * second)
  | .divide =>
      if second == 0.0 then zeroDivision "float division by zero"
      done (first / second)
  | .wholeDivide =>
      if second == 0.0 then zeroDivision "float floor division by zero"
      done (Floating.wholeQuotient first second)
  | .remainder =>
      if second == 0.0 then zeroDivision "float modulo"
      done (Floating.remainder first second)
  | .power =>
      if first == 0.0 ∧ second < 0.0 then
        zeroDivision "0.0 cannot be raised to a negative power"
      let result := Float.pow first second
      if result.isInf ∧ !first.isInf ∧ !second.isInf then
        Eval.fail "OverflowError" "(34, 'Numerical result out of range')"
      done result
  | _ => return none

/-! ## Texts and collections -/

def repeated {α : Type} (count : Int) (values : List α) : List α :=
  (List.replicate count.toNat values).flatten

def onSets (operator : BinaryOperator) (first second : List Value) :
    Eval (Option (List Value)) := do
  let without (values others : List Value) : Eval (List Value) :=
    values.filterM fun value => do return !(← Protocol.contains value others)
  match operator with
  | .either => return some (first ++ (← without second first))
  | .both => return some (← first.filterM fun value => Protocol.contains value second)
  | .subtract => return some (← without first second)
  | .exclusive => return some ((← without first second) ++ (← without second first))
  | _ => return none

def filled (octets : Bool) (form : List Char) (value : Value) : Eval (List Char) := do
  let core ← Kinds.core value
  let mapping ←
    match value, core with
    | _, .dictionary _ => pure (some value)
    | .entity _, _ =>
        pure (if (← Kinds.special? value "__getitem__").isSome then some value else none)
    | _, _ => pure none
  let values :=
    match core with
    | .tuple values => values
    | _ => [value]
  Forms.percentFilled octets Elements.element mapping (form.length + 1) [] values form

def repetition? (sequence count : Value) : Eval (Option Value) := do
  match count.asInteger? with
  | none => return none
  | some count =>
      match sequence with
      | .text text => return some (.text (repeated count text))
      | .bytes octets => return some (.bytes (repeated count octets))
      | .octets address =>
          let octets := repeated count (← Eval.octetsAt address)
          return some (.octets (← Eval.allocate (.octets octets)))
      | .tuple values => return some (.tuple (repeated count values))
      | .list address => return some (← Eval.newList (repeated count (← Eval.listAt address)))
      | _ => return none

def isSequence (value : Value) : Bool :=
  match value with
  | .text _ | .bytes _ | .octets _ | .tuple _ | .list _ => true
  | _ => false

def joined? (first second : Value) : Eval (Option Value) := do
  match first, second with
  | .text one, .text other => return some (.text (one ++ other))
  | .tuple one, .tuple other => return some (.tuple (one ++ other))
  | .list one, .list other =>
      return some (← Eval.newList ((← Eval.listAt one) ++ (← Eval.listAt other)))
  | .bytes one, other =>
      return (← Protocol.octetsOf? other).map fun other => .bytes (one ++ other)
  | .octets address, other =>
      match ← Protocol.octetsOf? other with
      | some other =>
          return some (.octets (← Eval.allocate (.octets ((← Eval.octetsAt address) ++ other))))
      | none => return none
  | _, _ => return none

def mismatchedJoin {α : Type} (first second : Value) : Eval α := do
  let name ← Kinds.nameOf second
  match first with
  | .text _ => Eval.typeFault ("can only concatenate str (not \"" ++ name ++ "\") to str")
  | .list _ => Eval.typeFault ("can only concatenate list (not \"" ++ name ++ "\") to list")
  | .tuple _ => Eval.typeFault ("can only concatenate tuple (not \"" ++ name ++ "\") to tuple")
  | .bytes _ => Eval.typeFault ("can't concat " ++ name ++ " to bytes")
  | _ => unsupported .add first second

def kindsIn : Value → List Value
  | .tuple kinds => kinds
  | .nothing => [.kind "NoneType"]
  | kind => [kind]

def coresBinary (operator : BinaryOperator) (first second : Value) : Eval Value := do
  match operator, first, second with
  | .remainder, .text form, value => return .text (← filled false form value)
  | .remainder, .bytes form, value => return .bytes (← filled true form value)
  | .add, first, second =>
      if isSequence first then
        match ← joined? first second with
        | some value => return value
        | none => mismatchedJoin first second
      else numeric
  | .multiply, first, second =>
      if isSequence first ∨ isSequence second then
        let (sequence, count) := if isSequence first then (first, second) else (second, first)
        match ← repetition? sequence count with
        | some value => return value
        | none => Eval.typeFault ("can't multiply sequence by non-int of type '" ++
            (← Kinds.nameOf count) ++ "'")
      else numeric
  | .either, .dictionary one, .dictionary other =>
      Eval.newDictionary (← Protocol.insertAll (← Eval.entriesAt one) (← Eval.entriesAt other))
  | .either, first, second =>
      if first.isKind ∨ (second.isKind ∧ !(first.asInteger?).isSome) then
        return .tuple (kindsIn first ++ kindsIn second)
      else onSetsOrNumbers
  | _, _, _ => onSetsOrNumbers
where
  numeric : Eval Value := do
    let result? ←
      match first.asInteger?, second.asInteger? with
      | some one, some other =>
          match operator, first, second with
          | .both, .truth one, .truth other => pure (some (.truth (one && other)))
          | .either, .truth one, .truth other => pure (some (.truth (one || other)))
          | .exclusive, .truth one, .truth other => pure (some (.truth (one != other)))
          | _, _, _ => onIntegers operator one other
      | _, _ =>
          if Protocol.isNumber first ∧ Protocol.isNumber second then
            onReals operator (Protocol.toReal first) (Protocol.toReal second)
          else pure none
    match result? with
    | some value => return value
    | none => unsupported operator first second
  onSetsOrNumbers : Eval Value := do
    match ← Protocol.setValues? first, ← Protocol.setValues? second with
    | some ones, some others =>
        match ← onSets operator ones others, first with
        | some values, .frozenSet _ => return .frozenSet (← Eval.allocate (.set values))
        | some values, _ => Eval.newSet values
        | none, _ => unsupported operator first second
    | _, _ => numeric

def isOwn (value : Value) : Bool :=
  match value with
  | .entity _ | .family _ => true
  | _ => false

def binary (operator : BinaryOperator) (first second : Value) : Eval Value := do
  if !isOwn first ∧ !isOwn second then return ← coresBinary operator first second
  let judged ← do
    match ← Protocol.answer? first operator.method [second] with
    | some .unfit | none => Protocol.answer? second operator.turnedMethod [first]
    | judged => pure judged
  match judged with
  | some .unfit | none =>
      let (one, other) := (← Kinds.core first, ← Kinds.core second)
      match one, other with
      | .entity _, _ | _, .entity _ =>
          if operator = .remainder then
            match one with
            | .text form => return .text (← filled false form second)
            | _ => unsupported operator first second
          else unsupported operator first second
      | one, other =>
          if operator = .remainder then
            match one with
            | .text form => return .text (← filled false form second)
            | _ => coresBinary operator one other
          else coresBinary operator one other
  | some value => return value

/-! ## Changing a value by an operator -/

/-- Join a value to one that changes itself, if it is of a kind that does. -/
def changed? (operator : BinaryOperator) (first second : Value) : Eval (Option Value) := do
  match operator, first with
  | .add, .list address =>
      let others ← Protocol.items second
      Eval.put address (.list ((← Eval.listAt address) ++ others))
      return some first
  | .multiply, .list address =>
      match second.asInteger? with
      | some count =>
          Eval.put address (.list (repeated count (← Eval.listAt address)))
          return some first
      | none => return none
  | .add, .octets address =>
      match ← Protocol.octetsOf? second with
      | some others =>
          Eval.put address (.octets ((← Eval.octetsAt address) ++ others))
          return some first
      | none => return none
  | .either, .dictionary address =>
      let more ←
        match second with
        | .dictionary other => Eval.entriesAt other
        | _ => unsupported operator first second
      Eval.putEntries address (← Protocol.insertAll (← Eval.entriesAt address) more)
      return some first
  | operator, .set address =>
      match ← Protocol.setValues? second with
      | none => return none
      | some others =>
          match ← onSets operator (← Eval.listAt address) others with
          | some values =>
              Eval.put address (.set values)
              return some first
          | none => return none
  | _, _ => return none

def augmented (operator : BinaryOperator) (first second : Value) : Eval Value := do
  match ← Protocol.answer? first operator.changingMethod [second] with
  | some .unfit => binary operator first second
  | some value => return value
  | none =>
      match first with
      | .entity _ =>
          if (← Kinds.special? first operator.method).isSome then binary operator first second
          else
            match ← changed? operator (← Kinds.core first) second with
            | some _ => return first
            | none => binary operator first second
      | first =>
          match ← changed? operator first second with
          | some value => return value
          | none => binary operator first second

/-! ## Other operators -/

def unary (operator : UnaryOperator) (value : Value) : Eval Value := do
  let method : String :=
    match operator with
    | .minus => "__neg__"
    | .plus => "__pos__"
    | _ => "__invert__"
  if operator = .not then return .truth (!(← Protocol.isTrue value))
  match ← Protocol.answer? value method [] with
  | some result => return result
  | none =>
      let core ← Kinds.core value
      match operator, core, core.asInteger? with
      | .minus, .real number, _ => return .real (-number)
      | .plus, .real number, _ => return .real number
      | .minus, _, some number => return .integer (-number)
      | .plus, _, some number => return .integer number
      | .invert, _, some number => return .integer (invertedBits number)
      | _, _, _ =>
          let sign := match operator with
            | .minus => "-"
            | .plus => "+"
            | _ => "~"
          Eval.typeFault ("bad operand type for unary " ++ sign ++ ": '" ++
            (← Kinds.nameOf value) ++ "'")

def compare (comparison : Comparison) (first second : Value) : Eval Value := do
  let ordered : Eval Value := do
    if isOwn first ∨ isOwn second then
      let judged ← do
        match ← Protocol.answer? first comparison.method [second] with
        | some .unfit | none => Protocol.answer? second comparison.turned.method [first]
        | judged => pure judged
      match judged with
      | some .unfit | none => return .truth (← Protocol.compare comparison first second)
      | some value => return value
    else return .truth (← Protocol.coresCompare comparison first second)
  match comparison with
  | .equal =>
      match ← Protocol.answer? first "__eq__" [second] with
      | some .unfit | none => return .truth (← Evaluator.equal first second)
      | some value => return value
  | .unequal =>
      match ← Protocol.answer? first "__ne__" [second] with
      | some .unfit | none => return .truth (!(← Evaluator.equal first second))
      | some value => return value
  | .same => return .truth (Protocol.isSame first second)
  | .notSame => return .truth (!Protocol.isSame first second)
  | .within => return .truth (← Elements.contains second first)
  | .notWithin => return .truth (!(← Elements.contains second first))
  | _ => ordered

end Operators

end BuiltinWrappers.Script.Indented
