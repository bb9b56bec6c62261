/-!
# Binary floating-point numbers

Numbers with 53 significant bits, kept as an exact significand and a power of
two.  A decimal is read as the nearest such number, a half going to the even
one.  A number is written with the fewest digits that read back to it, never
with an exponent and always with a point.
-/

namespace BuiltinWrappers

inductive Binary64 where
  | finite (negative : Bool) (significand : Nat) (exponent : Int)
  | infinite (negative : Bool)
  | nan
  deriving DecidableEq, Repr

namespace Binary64

/-! ## Quotients -/

/-- The power of `base` as a numerator over a denominator, one of them being one. -/
def powerQuotient (base : Nat) (exponent : Int) : Nat × Nat :=
  (Nat.pow base exponent.toNat, Nat.pow base (-exponent).toNat)

def divideHalfEven (numerator denominator : Nat) : Nat :=
  let quotient := numerator / denominator
  let twice := 2 * (numerator % denominator)
  if twice < denominator then quotient
  else if denominator < twice then quotient + 1
  else quotient + quotient % 2

/-- The largest power of two that is at most a positive quotient. -/
def floorLog2 (numerator denominator : Nat) : Int :=
  let estimate := (numerator.log2 : Int) - denominator.log2
  let (up, down) := powerQuotient 2 estimate
  if denominator * up ≤ numerator * down then estimate else estimate - 1

/-! ## Reading a decimal -/

/-- The least significand of 53 bits. -/
def leastNormal : Nat := 4503599627370496

def lowestExponent : Int := -1074

def highestExponent : Int := 971

/-- Decimals whose leading digit stands beyond these places are out of range. -/
def decimalPlaces : Int := 400

def nearestQuotient? (numerator denominator : Nat) : Option (Nat × Int) :=
  let exponent := max (floorLog2 numerator denominator - 52) lowestExponent
  let (up, down) := powerQuotient 2 exponent
  let significand := divideHalfEven (numerator * down) (denominator * up)
  let rounded :=
    if significand = 2 * leastNormal then (leastNormal, exponent + 1)
    else (significand, exponent)
  if rounded.2 ≤ highestExponent then some rounded else none

/-- The number nearest to a decimal, or none if the decimal is too large. -/
def ofDecimal? (negative : Bool) (digits : Nat) (exponent : Int) : Option Binary64 :=
  let leading := ((Nat.toDigits 10 digits).length : Int) + exponent
  if digits = 0 ∨ leading < -decimalPlaces then
    some (.finite negative 0 lowestExponent)
  else if decimalPlaces < leading then none
  else
    let (up, down) := powerQuotient 10 exponent
    (nearestQuotient? (digits * up) down).map fun (significand, binary) =>
      .finite negative significand binary

/-! ## Writing the shortest decimal -/

/-- Whether `candidate`, in quarters of a unit of the significand, reads back to it. -/
def readsBack (significand : Nat) (exponent : Int)
    (numerator denominator : Nat) : Bool :=
  let below :=
    if significand = leastNormal ∧ lowestExponent < exponent then 1 else 2
  let low := (4 * significand - below) * denominator
  let high := (4 * significand + 2) * denominator
  if significand % 2 = 0 then low ≤ numerator ∧ numerator ≤ high
  else low < numerator ∧ numerator < high

/--
The neighbour on the decimal grid `10 ^ grid` that reads back to the number and
lies closer to it, the upper one if both are equally close.
-/
def neighbour? (significand : Nat) (exponent grid : Int) : Option Nat :=
  let (up, down) := powerQuotient 2 exponent
  let (gridUp, gridDown) := powerQuotient 10 grid
  let numerator := significand * up * gridDown
  let denominator := down * gridUp
  let lower := numerator / denominator
  let reads (candidate : Nat) : Bool :=
    readsBack significand exponent (4 * candidate * gridUp * down) (gridDown * up)
  let upperCloser := denominator ≤ 2 * (numerator % denominator)
  match reads lower, reads (lower + 1) with
  | true, true => some (if upperCloser then lower + 1 else lower)
  | true, false => some lower
  | false, true => some (lower + 1)
  | false, false => none

/-- The place of the leading digit, counted from the point. -/
def leadingPlace (significand : Nat) (exponent : Int) : Int :=
  let (up, down) := powerQuotient 2 exponent
  let shifted := significand * up * Nat.pow 10 decimalPlaces.toNat / down
  ((Nat.toDigits 10 shifted).length : Int) - decimalPlaces

def dropZeros (digits : List Char) : List Char :=
  (digits.reverse.dropWhile (· = '0')).reverse

def shortestDigits (significand : Nat) (exponent : Int) : List Char × Int :=
  let place := leadingPlace significand exponent
  let found := (List.range 17).findSome? fun (index : Nat) =>
    let grid := place - ((index : Int) + 1)
    (neighbour? significand exponent grid).map fun digits =>
      (Nat.toDigits 10 digits, grid)
  let (digits, grid) := found.getD ([], 0)
  (dropZeros digits, (digits.length : Int) + grid)

/-- Digits with a point after the given number of them. -/
def positional (digits : List Char) (place : Int) : List Char :=
  if place ≤ 0 then '0' :: '.' :: List.replicate (-place).toNat '0' ++ digits
  else
    let whole := digits.take place.toNat
    let fraction := digits.drop place.toNat
    whole ++ List.replicate (place.toNat - whole.length) '0' ++ '.' ::
      (if fraction.isEmpty then ['0'] else fraction)

def magnitudeText (significand : Nat) (exponent : Int) : List Char :=
  if significand = 0 then "0.0".toList
  else
    let (digits, place) := shortestDigits significand exponent
    positional digits place

def signed (negative : Bool) (text : List Char) : List Char :=
  if negative then '-' :: text else text

def text : Binary64 → String
  | .finite negative significand exponent =>
      .ofList (signed negative (magnitudeText significand exponent))
  | .infinite negative => .ofList (signed negative "inf".toList)
  | .nan => "NaN"

end Binary64

end BuiltinWrappers
