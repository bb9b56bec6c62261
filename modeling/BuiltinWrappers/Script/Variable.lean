import BuiltinWrappers.Script.Syntax
import BuiltinWrappers.Text.Digits

/-!
# Variables

A variable holds texts under indices, of which a plain one uses only the first, or
texts under keys.  Texts under keys come in the order of the buckets that their
keys fall into, and within a bucket the newest one comes first.
-/

namespace BuiltinWrappers.Script

open Text (Octets)

/-! ## Buckets -/

namespace Association

def bucketCount : Nat := 1024

def wordSize : Nat := 4294967296

def octetWord (octet : Char) : Nat :=
  if octet.toNat < 128 then octet.toNat else wordSize - 256 + octet.toNat

def bucket (key : Octets) : Nat :=
  key.foldl (fun word octet => word * 16777619 % wordSize ^^^ octetWord octet) 2166136261 %
    bucketCount

def inOrder (entries : List (Octets × Octets)) : List (Octets × Octets) :=
  entries.mergeSort fun first second => bucket first.1 ≤ bucket second.1

def put (key value : Octets) (entries : List (Octets × Octets)) : List (Octets × Octets) :=
  if (entries.lookup key).isSome then
    entries.map fun entry => if entry.1 = key then (key, value) else entry
  else (key, value) :: entries

example : bucket ['2'] < bucket ['c'] ∧ bucket ['c'] = bucket ['c', 'p', 'p'] := by
  decide +kernel

end Association

/-! ## Variables -/

inductive Subscript where
  | all (joined : Bool)
  | index (index : Int)
  | key (key : Octets)

structure Variable where
  values : List (Nat × Octets) := []
  keyed : Option (List (Octets × Octets)) := none
  isList : Bool := false
  exported : Bool := false
  readOnly : Bool := false
  isInteger : Bool := false
  letterCase : Option LetterCase := none
  refersTo : Option Octets := none

namespace Variable

def ofText (text : Octets) : Variable := { values := [(0, text)] }

def ofList (texts : List Octets) : Variable where
  values := texts.zipIdx.map fun (text, index) => (index, text)
  isList := true

def entries (variableAt : Variable) : List (Octets × Octets) :=
  match variableAt.keyed with
  | some entries => Association.inOrder entries
  | none => variableAt.values.map fun (index, text) => (Text.decimalText index, text)

def texts (variableAt : Variable) : List Octets := variableAt.entries.map Prod.snd

def value? (variableAt : Variable) : Option Octets :=
  match variableAt.keyed with
  | some entries => entries.lookup ['0']
  | none => variableAt.values.lookup 0

def nextIndex (variableAt : Variable) : Nat :=
  (variableAt.values.getLast?.map (·.1 + 1)).getD 0

def place? (variableAt : Variable) (index : Int) : Option Nat :=
  let place := if index < 0 then index + variableAt.nextIndex else index
  if place < 0 then none else some place.toNat

def textAt? (variableAt : Variable) (index : Int) : Option Octets :=
  match variableAt.keyed with
  | some entries => entries.lookup (Text.integerText index)
  | none => (variableAt.place? index).bind (variableAt.values.lookup ·)

def textUnder? (variableAt : Variable) (key : Octets) : Option Octets :=
  variableAt.keyed.bind fun entries => entries.lookup key

/-- Give a text to an index; the texts stay in the order of their indices. -/
def setAt (variableAt : Variable) (index : Nat) (text : Octets) : Variable :=
  match variableAt.keyed with
  | some entries =>
      { variableAt with keyed := some (Association.put (Text.decimalText index) text entries) }
  | none =>
      let before := variableAt.values.filter (·.1 < index)
      let after := variableAt.values.filter (index < ·.1)
      { variableAt with values := before ++ (index, text) :: after }

def put (variableAt : Variable) (subscript : Option Subscript) (text : Octets) : Variable :=
  match subscript, variableAt.keyed with
  | some (.index index), _ =>
      { variableAt.setAt ((variableAt.place? index).getD 0) text with isList := true }
  | some (.key key), some entries =>
      { variableAt with keyed := some (Association.put key text entries) }
  | _, _ => variableAt.setAt 0 text

def removeAt (variableAt : Variable) (subscript : Subscript) : Variable :=
  match subscript with
  | .index index =>
      match variableAt.place? index with
      | some place => { variableAt with values := variableAt.values.filter (·.1 ≠ place) }
      | none => variableAt
  | .key key =>
      { variableAt with keyed := variableAt.keyed.map fun entries => entries.filter (·.1 ≠ key) }
  | .all _ => { variableAt with values := [], keyed := variableAt.keyed.map fun _ => [] }

def setTexts (variableAt : Variable) (texts : List Octets) : Variable :=
  { variableAt with
    values := texts.zipIdx.map fun (text, index) => (index, text)
    isList := true }

def attributes (variableAt : Variable) : Octets :=
  let letter (holds : Bool) (letter : Char) : Octets := if holds then [letter] else []
  letter (variableAt.isList && variableAt.keyed.isNone) 'a' ++
    letter variableAt.keyed.isSome 'A' ++ letter variableAt.isInteger 'i' ++
    letter (variableAt.letterCase = some .lower) 'l' ++
    letter variableAt.refersTo.isSome 'n' ++
    letter variableAt.readOnly 'r' ++ letter (variableAt.letterCase = some .upper) 'u' ++
    letter variableAt.exported 'x'

end Variable

end BuiltinWrappers.Script
