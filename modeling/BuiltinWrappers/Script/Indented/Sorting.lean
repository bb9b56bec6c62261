import BuiltinWrappers.Script.Indented.Operators

/-!
# Sorting

Values are put in order by their keys; values with equal keys keep the order that
they had.
-/

namespace BuiltinWrappers.Script.Indented

variable [Evaluator]

namespace Sorting

/-! ## Merging -/

structure Keyed where
  key : Value
  value : Value

def merge : (fuel : Nat) → (found : List Keyed) → List Keyed → List Keyed → Eval (List Keyed)
  | 0, _, _, _ => throw .exhausted
  | _ + 1, found, [], others => return found.reverse ++ others
  | _ + 1, found, ones, [] => return found.reverse ++ ones
  | fuel + 1, found, one :: ones, other :: others => do
      if ← Evaluator.less .less other.key one.key then
        merge fuel (other :: found) (one :: ones) others
      else merge fuel (one :: found) ones (other :: others)

def mergePairs (fuel : Nat) : List (List Keyed) → Eval (List (List Keyed))
  | first :: second :: rest => do
      let merged ← merge fuel [] first second
      return merged :: (← mergePairs fuel rest)
  | lists => return lists

def mergeAll (size : Nat) : (fuel : Nat) → List (List Keyed) → Eval (List Keyed)
  | 0, _ => throw .exhausted
  | _ + 1, [] => return []
  | _ + 1, [only] => return only
  | fuel + 1, lists => do mergeAll size fuel (← mergePairs size lists)

/-! ## Keys that need not be asked -/

def textKey? : Value → Option (List Char)
  | .text characters => some characters
  | _ => none

def integerKey? : Value → Option Int
  | .integer value => some value
  | _ => none

def plainlySorted? (values : List Keyed) : Option (List Keyed) :=
  if values.all fun value => (textKey? value.key).isSome then
    some (values.mergeSort fun one other =>
      !Protocol.lessText ((textKey? other.key).getD []) ((textKey? one.key).getD []))
  else if values.all fun value => (integerKey? value.key).isSome then
    some (values.mergeSort fun one other =>
      (integerKey? one.key).getD 0 ≤ (integerKey? other.key).getD 0)
  else none

def sortedKeyed (values : List Keyed) : Eval (List Keyed) := do
  match plainlySorted? values with
  | some sorted => return sorted
  | none => mergeAll (values.length + 1) (values.length + 2) (values.map ([·]))

/-! ## Sorting values -/

def keyOf (key : Option Value) (value : Value) : Eval Value := do
  match key with
  | none | some .nothing => return value
  | some function => Protocol.call function [value]

def sorted (values : List Value) (arguments : Arguments) : Eval (List Value) := do
  let turned ←
    match arguments.named.lookup "reverse" with
    | some value => Protocol.isTrue value
    | none => pure false
  let keyed ← values.mapM fun value => do
    return ({ key := ← keyOf (arguments.named.lookup "key") value, value } : Keyed)
  let found ← sortedKeyed (if turned then keyed.reverse else keyed)
  let values := found.map Keyed.value
  return if turned then values.reverse else values

def extreme (name : String) (arguments : Arguments) : Eval Value := do
  let values ←
    match arguments.plain with
    | [only] => Protocol.items only
    | values => pure values
  let key := arguments.named.lookup "key"
  let comparison : Comparison := if name = "min" then .less else .greater
  match values with
  | [] =>
      match arguments.named.lookup "default" with
      | some value => return value
      | none => Eval.valueFault (name ++ "() arg is an empty sequence")
  | first :: others =>
      let firstKey ← keyOf key first
      let (best, _) ← others.foldlM (fun (best, bestKey) value => do
        let valueKey ← keyOf key value
        return if ← Evaluator.less comparison valueKey bestKey then (value, valueKey)
          else (best, bestKey)) (first, firstKey)
      return best

end Sorting

end BuiltinWrappers.Script.Indented
