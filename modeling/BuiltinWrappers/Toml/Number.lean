import BuiltinWrappers.Binary64
import BuiltinWrappers.Text.Digits

/-!
# Numbers of a document

Integers are decimal with an optional sign, or unsigned in base sixteen, eight
or two.  Floating-point numbers have a fraction, an exponent or both, or are one
of the special names.  An underscore may stand between two digits.

Whether a text is taken for a number is one question and what its value is
another: a number without a value spoils a document only where it is looked at.
Integers have a value from the least one of 128 bits with a sign to the largest
one without.
-/

namespace BuiltinWrappers.Toml

open Text (isDigitOf ofDigits)

inductive Number where
  | integer (value : Int)
  | float (value : Binary64)
  | valueless
  deriving DecidableEq, Repr

/-! ## Signs -/

def splitSign : List Char → Bool × List Char
  | '-' :: text => (true, text)
  | '+' :: text => (false, text)
  | text => (false, text)

def applySign (negative : Bool) (value : Int) : Int :=
  if negative then -value else value

/-! ## Underscores -/

def isUnderscore (character : Char) : Bool := character = '_'

def meetInDigits (isDigit : Char → Bool) : List (List Char) → Bool
  | left :: right :: pieces =>
      left.getLast?.any isDigit && right.head?.any isDigit &&
        meetInDigits isDigit (right :: pieces)
  | _ => true

def withoutUnderscores (text : List Char) : List Char := text.filter (!isUnderscore ·)

/-! ## Integers -/

def smallestInteger : Int := -170141183460469231731687303715884105728

def largestInteger : Int := 340282366920938463463374607431768211455

def ofInteger (value : Int) : Number :=
  if smallestInteger ≤ value ∧ value ≤ largestInteger then .integer value else .valueless

def ofMagnitude (base : Nat) (negative : Bool) (digits : List Char) : Number :=
  if digits ≠ [] ∧ digits.all (isDigitOf base) then
    ofInteger (applySign negative (ofDigits base digits))
  else .valueless

def basedInteger? (base : Nat) (digits : List Char) : Option Number :=
  if (withoutUnderscores digits).all (isDigitOf base) ∧
      meetInDigits (isDigitOf 16) (digits.splitOn '_') then
    some (ofMagnitude base false (withoutUnderscores digits))
  else none

def hasFloatMark (text : List Char) : Bool :=
  text.any fun character => character = '.' || character = 'e' || character = 'E'

/--
A decimal integer: digits alone, or digits up to an underscore with anything
behind it that has no space and does not look like a floating-point number.
-/
def decimalInteger? (text : List Char) : Option Number :=
  let (negative, magnitude) := splitSign text
  let rest := magnitude.dropWhile Char.isDigit
  let leadingZero := magnitude.head? = some '0'
  if magnitude = [] then none
  else if rest = [] then
    if leadingZero ∧ magnitude ≠ ['0'] then none
    else some (ofMagnitude 10 negative magnitude)
  else if rest.head?.any isUnderscore ∧ ¬leadingZero ∧ !hasFloatMark rest ∧
      !rest.contains ' ' ∧ meetInDigits (isDigitOf 16) (text.splitOn '_') then
    some (ofMagnitude 10 negative (withoutUnderscores magnitude))
  else none

def integer? : List Char → Option Number
  | '0' :: 'x' :: digits => basedInteger? 16 digits
  | '0' :: 'o' :: digits => basedInteger? 8 digits
  | '0' :: 'b' :: digits => basedInteger? 2 digits
  | text => decimalInteger? text

/-! ## Floating-point numbers -/

def isDigitOrUnderscore (character : Char) : Bool :=
  character.isDigit || isUnderscore character

def digitRun? (text : List Char) : Option (List Char × List Char) :=
  match withoutUnderscores (text.takeWhile isDigitOrUnderscore) with
  | [] => none
  | digits => some (digits, text.dropWhile isDigitOrUnderscore)

/-- The digits before the point, where only a lone zero may stand in front. -/
def whole? (text : List Char) : Option (List Char × List Char) :=
  (digitRun? text).filter fun (digits, _) =>
    text.head? ≠ some '0' || digits.length = 1

def fraction? : List Char → Option (List Char × List Char)
  | '.' :: text => digitRun? text
  | text => some ([], text)

def isExponentMark (character : Char) : Bool := character = 'e' || character = 'E'

def exponent? (text : List Char) : Option (Int × List Char) :=
  if text.head?.any isExponentMark then
    let (negative, text) := splitSign text.tail
    (digitRun? text).map fun (digits, rest) =>
      (applySign negative (ofDigits 10 digits), rest)
  else some (0, text)

def ofDecimal (negative : Bool) (whole fraction : List Char) (exponent : Int) : Number :=
  match Binary64.ofDecimal? negative (ofDigits 10 (whole ++ fraction))
      (exponent - fraction.length) with
  | some value => .float value
  | none => .valueless

def decimalFloat? (text : List Char) : Option Number := do
  let (negative, magnitude) := splitSign text
  let (whole, afterWhole) ← whole? magnitude
  let (fraction, afterFraction) ← fraction? afterWhole
  let (exponent, rest) ← exponent? afterFraction
  if rest = [] ∧ hasFloatMark text ∧ meetInDigits Char.isDigit (text.splitOn '_') then
    some (ofDecimal negative whole fraction exponent)
  else none

def float? (text : List Char) : Option Number :=
  let (negative, magnitude) := splitSign text
  if magnitude = "inf".toList then some (.float (.infinite negative))
  else if magnitude = "nan".toList then some (.float .nan)
  else decimalFloat? text

def number? (text : List Char) : Option Number := integer? text <|> float? text

/-! ## Examples -/

example : number? "-1_000".toList = some (.integer (-1000)) := by decide

example : number? "0xdead_BEEF".toList = some (.integer 0xdeadbeef) := by decide

example : number? "1_a".toList = some .valueless := by decide

example : number? "0_1".toList = none := by decide

example : number? "1_0.5e1".toList = some (.float (.finite false 7388718138654720 (-46))) := by
  decide +kernel

end BuiltinWrappers.Toml
