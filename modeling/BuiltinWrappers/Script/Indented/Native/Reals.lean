import BuiltinWrappers.Script.Indented.Routine

/-!
# Functions of real numbers

What the libraries for numbers need and cannot compute from sums and products: the
elementary functions, and the bits that numbers are stored as.
-/

namespace BuiltinWrappers.Script.Indented

variable [Evaluator]

namespace Native.Reals

def function? (name : String) : Option (Float → Float) :=
  match name with
  | "sqrt" => some Float.sqrt
  | "cbrt" => some Float.cbrt
  | "exp" => some Float.exp
  | "exp2" => some Float.exp2
  | "log" => some Float.log
  | "log2" => some Float.log2
  | "log10" => some Float.log10
  | "sin" => some Float.sin
  | "cos" => some Float.cos
  | "tan" => some Float.tan
  | "asin" => some Float.asin
  | "acos" => some Float.acos
  | "atan" => some Float.atan
  | "sinh" => some Float.sinh
  | "cosh" => some Float.cosh
  | "tanh" => some Float.tanh
  | "asinh" => some Float.asinh
  | "acosh" => some Float.acosh
  | "atanh" => some Float.atanh
  | _ => none

def functionNames : List String :=
  ["sqrt", "cbrt", "exp", "exp2", "log", "log2", "log10", "sin", "cos", "tan", "asin", "acos",
   "atan", "sinh", "cosh", "tanh", "asinh", "acosh", "atanh"]

/-- A result, unless it shows that the function has none for its argument. -/
def checked (given : List Float) (result : Float) : Eval Value := do
  let isPlain (value : Float) : Bool := !value.isNaN && !value.isInf
  if result.isNaN ∧ !given.any Float.isNaN then Eval.valueFault "math domain error"
  if result.isInf ∧ given.all isPlain then
    if given.head?.any fun value => value == 0.0 || value.abs == 1.0 then
      Eval.valueFault "math domain error"
    Eval.fail "OverflowError" "math range error"
  return .real result

def leftOver (first second : Float) : Float :=
  match Floating.quotient? first, Floating.quotient? second with
  | some (a, b), some (c, d) =>
      if c = 0 then 0.0 / 0.0
      else
        let found := (Floating.ofQuotient? (Int.tmod (a * d) (c * b)) (b * d)).getD 0.0
        if found == 0.0 ∧ Floating.isNegative first then -0.0 else found
  | some _, none => if second.isNaN then second else first
  | _, _ => 0.0 / 0.0

def shortBits (value : Float) : Nat := value.toFloat32.toBits.toNat

def names : List String :=
  functionNames ++ ["atan2", "pow", "fmod", "bits", "of_bits", "short_bits", "of_short_bits"]

def call (name : String) (arguments : Arguments) : Eval Value := do
  let real (index : Nat) : Eval Float := do
    Making.realOf (← arguments.value index "x")
  let natural : Eval Nat := do return (← arguments.integer 0 "n" 0).toNat
  match function? name with
  | some function =>
      let given ← real 0
      checked [given] (function given)
  | none =>
      match name with
      | "atan2" => return .real (Float.atan2 (← real 0) (← real 1))
      | "pow" =>
          let (base, exponent) := (← real 0, ← real 1)
          if base == 0.0 ∧ exponent < 0.0 then Eval.valueFault "math domain error"
          checked [base, exponent] (Float.pow base exponent)
      | "fmod" =>
          let (first, second) := (← real 0, ← real 1)
          checked [first, second] (leftOver first second)
      | "bits" => return .ofNat (← real 0).toBits.toNat
      | "of_bits" => return .real (Float.ofBits (UInt64.ofNat (← natural)))
      | "short_bits" => return .ofNat (shortBits (← real 0))
      | _ => return .real (Float32.ofBits (UInt32.ofNat (← natural))).toFloat

end Native.Reals

end BuiltinWrappers.Script.Indented
