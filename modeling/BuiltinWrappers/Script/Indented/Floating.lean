import BuiltinWrappers.Binary64
import BuiltinWrappers.Text.Digits

/-!
# Floating-point numbers of indented scripts

Numbers are taken apart into exact quotients where a result must not be rounded
twice, and written in the forms that scripts ask for.
-/

namespace BuiltinWrappers.Script.Indented.Floating

/-! ## Exact values -/

def parts (value : Float) : Binary64 :=
  let bits := value.toBits.toNat
  let negative : Bool := bits / Nat.pow 2 63 = 1
  let exponent : Nat := bits / Nat.pow 2 52 % 2048
  let fraction : Nat := bits % Nat.pow 2 52
  if exponent = 2047 then if fraction = 0 then .infinite negative else .nan
  else if exponent = 0 then .finite negative fraction Binary64.lowestExponent
  else .finite negative (fraction + Nat.pow 2 52) ((exponent : Int) - 1075)

def ofParts : Binary64 → Float
  | .finite negative significand exponent =>
      let size := (Float.ofNat significand).scaleB exponent
      if negative then -size else size
  | .infinite negative => if negative then -(1.0 / 0.0) else 1.0 / 0.0
  | .nan => 0.0 / 0.0

def quotient? (value : Float) : Option (Int × Nat) :=
  match parts value with
  | .finite negative significand exponent =>
      let (up, down) := Binary64.powerQuotient 2 exponent
      let numerator : Int := significand * up
      some (if negative then -numerator else numerator, down)
  | _ => none

def ofQuotient? (numerator : Int) (denominator : Nat) : Option Float :=
  if numerator = 0 then some 0.0
  else
    (Binary64.nearestQuotient? numerator.natAbs denominator).map
      fun (significand, exponent) => ofParts (.finite (numerator < 0) significand exponent)

def ofInteger? (value : Int) : Option Float := ofQuotient? value 1

def truncated? (value : Float) : Option Int :=
  (quotient? value).map fun (numerator, denominator) => Int.tdiv numerator denominator

def nearestInteger (numerator : Int) (denominator : Nat) : Int :=
  let size : Int := Binary64.divideHalfEven numerator.natAbs denominator
  if numerator < 0 then -size else size

def isNegative (value : Float) : Bool := value.toBits.toNat / Nat.pow 2 63 = 1

def remainder (first second : Float) : Float :=
  match quotient? first, quotient? second with
  | some (a, b), some (c, d) =>
      let found := (ofQuotient? (Int.fmod (a * d) (c * b)) (b * d)).getD 0.0
      if found == 0.0 then if isNegative second then -0.0 else 0.0 else found
  | some _, none => if second.isNaN then second
      else if (first < 0.0) == (second < 0.0) || first == 0.0 then first else second
  | _, _ => 0.0 / 0.0

def wholeQuotient (first second : Float) : Float :=
  match quotient? first, quotient? second with
  | some (a, b), some (c, d) =>
      let found := Int.fdiv (a * d) (c * b)
      if found = 0 then if isNegative first == isNegative second then 0.0 else -0.0
      else (ofInteger? found).getD (first / second)
  | _, _ => (first / second).floor

/-! ## Texts -/

def signed (negative : Bool) (text : List Char) : List Char :=
  if negative then '-' :: text else text

def exponentText (exponent : Int) : List Char :=
  let digits := Text.decimalText exponent.natAbs
  (if exponent < 0 then '-' else '+') ::
    (if digits.length < 2 then '0' :: digits else digits)

def pointed (digits : List Char) : List Char :=
  match digits with
  | first :: second :: rest => first :: '.' :: second :: rest
  | digits => digits

def text (value : Float) : List Char :=
  match parts value with
  | .nan => "nan".toList
  | .infinite negative => signed negative "inf".toList
  | .finite negative significand exponent =>
      if significand = 0 then signed negative "0.0".toList
      else
        let (digits, place) := Binary64.shortestDigits significand exponent
        if -4 < place ∧ place ≤ 16 then signed negative (Binary64.positional digits place)
        else signed negative (pointed digits ++ 'e' :: exponentText (place - 1))

def withPoint (count : Nat) (digits : List Char) : List Char :=
  let digits := List.replicate (count + 1 - digits.length) '0' ++ digits
  let whole := digits.take (digits.length - count)
  if count = 0 then whole else whole ++ '.' :: digits.drop (digits.length - count)

def fixed (count : Nat) (numerator : Nat) (denominator : Nat) : List Char :=
  withPoint count (Text.decimalText
    (Binary64.divideHalfEven (numerator * Nat.pow 10 count) denominator))

def leadingPlace (numerator denominator : Nat) : Int :=
  let estimate : Int :=
    (Text.decimalText numerator).length - (Text.decimalText denominator).length
  let (up, down) := Binary64.powerQuotient 10 estimate
  if denominator * up ≤ numerator * down then estimate else estimate - 1

def significant (count : Nat) (numerator denominator : Nat) : List Char × Int :=
  let place := leadingPlace numerator denominator
  let (up, down) := Binary64.powerQuotient 10 ((count : Int) - 1 - place)
  let digits := Text.decimalText (Binary64.divideHalfEven (numerator * up) (denominator * down))
  if digits.length = count then (digits, place) else (digits.take count, place + 1)

def exponential (count : Nat) (numerator denominator : Nat) : List Char :=
  if numerator = 0 then
    pointed ('0' :: List.replicate count '0') ++ 'e' :: exponentText 0
  else
    let (digits, place) := significant (count + 1) numerator denominator
    pointed digits ++ 'e' :: exponentText place

def withoutZeros (digits : List Char) : List Char :=
  (digits.reverse.dropWhile (· = '0')).reverse

/--
The size of a number with so many significant digits, in the shorter of the two
ways of writing it.  Zeros at the end are kept if that is asked for.
-/
def general (count : Nat) (keepsZeros : Bool) (numerator denominator : Nat) : List Char :=
  let count := max count 1
  let (digits, place) :=
    if numerator = 0 then (List.replicate count '0', 0)
    else significant count numerator denominator
  let kept := if keepsZeros then digits else withoutZeros digits
  if place < -4 ∨ (count : Int) ≤ place then
    pointed (if kept.isEmpty then ['0'] else kept) ++ 'e' :: exponentText place
  else if place < 0 then
    '0' :: '.' :: List.replicate (-place - 1).toNat '0' ++ kept
  else
    let whole := digits.take (place.toNat + 1)
    let fraction := kept.drop (place.toNat + 1)
    if fraction.isEmpty then whole else whole ++ '.' :: fraction

/-- The number that a text writes, with blanks around it left out before. -/
def ofText? (text : List Char) : Option Float := do
  let (negative, unsigned) :=
    match text with
    | '-' :: rest => (true, rest)
    | '+' :: rest => (false, rest)
    | rest => (false, rest)
  let word := String.ofList (unsigned.map Char.toLower)
  let value ←
    if word = "inf" ∨ word = "infinity" then some (1.0 / 0.0)
    else if word = "nan" then some (0.0 / 0.0)
    else do
      let whole := unsigned.takeWhile fun (digit : Char) => digit.isDigit || digit = '_'
      let rest := unsigned.drop whole.length
      let (fraction, rest) :=
        match rest with
        | '.' :: rest =>
            let digits := rest.takeWhile fun (digit : Char) => digit.isDigit || digit = '_'
            (digits, rest.drop digits.length)
        | rest => ([], rest)
      let (scale, rest) :=
        match rest with
        | letter :: rest =>
            if letter.toLower = 'e' then
              let unsigned :=
                if rest.head? = some '-' ∨ rest.head? = some '+' then rest.tail else rest
              let digits := unsigned.takeWhile Char.isDigit
              let size : Int := Text.ofDigits 10 digits
              if digits.isEmpty then (0, letter :: rest)
              else (if rest.head? = some '-' then -size else size, unsigned.drop digits.length)
            else (0, letter :: rest)
        | [] => (0, [])
      let digits := (whole ++ fraction).filter Char.isDigit
      if digits.isEmpty ∨ !rest.isEmpty ∨ whole.head? = some '_' then none
      let places := (fraction.filter Char.isDigit).length
      some (ofParts ((Binary64.ofDecimal? false (Text.ofDigits 10 digits)
        (scale - places)).getD (.infinite false)))
  return if negative then -value else value

end BuiltinWrappers.Script.Indented.Floating
