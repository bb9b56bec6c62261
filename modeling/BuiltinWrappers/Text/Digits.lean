/-!
# Digits

The values of digits in a base up to sixteen, and of the numbers they write.
-/

namespace BuiltinWrappers.Text

def digitValue? (base : Nat) (character : Char) : Option Nat :=
  let value :=
    if character.isDigit then character.toNat - '0'.toNat
    else if 'a' ≤ character ∧ character ≤ 'f' then character.toNat - 'a'.toNat + 10
    else if 'A' ≤ character ∧ character ≤ 'F' then character.toNat - 'A'.toNat + 10
    else base
  if value < base then some value else none

def isDigitOf (base : Nat) (character : Char) : Bool := (digitValue? base character).isSome

/-- The number that digits write in a base. -/
def ofDigits (base : Nat) (digits : List Char) : Nat :=
  digits.foldl (fun value digit => base * value + (digitValue? base digit).getD 0) 0

/-- The digits in front of a text, at most so many, and what follows them. -/
def splitDigits (base limit : Nat) (text : List Char) : List Char × List Char :=
  let digits := (text.take limit).takeWhile (isDigitOf base)
  (digits, text.drop digits.length)

/-- The integer that a text writes with decimal digits and perhaps a sign. -/
def integer? (text : List Char) : Option Int :=
  let (negative, digits) :=
    match text with
    | '-' :: digits => (true, digits)
    | '+' :: digits => (false, digits)
    | digits => (false, digits)
  if digits ≠ [] ∧ digits.all Char.isDigit then
    let value : Int := ofDigits 10 digits
    some (if negative then -value else value)
  else none

def decimalText (value : Nat) : List Char := Nat.toDigits 10 value

def integerText (value : Int) : List Char :=
  if value < 0 then '-' :: decimalText value.natAbs else decimalText value.natAbs

/-! ## Examples -/

example : ofDigits 16 "1F".toList = 31 := by decide

example : integer? "-12".toList = some (-12) := by decide

end BuiltinWrappers.Text
