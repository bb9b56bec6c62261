import BuiltinWrappers.Script.Quoting
import BuiltinWrappers.Binary64
import BuiltinWrappers.Script.Escapes
import BuiltinWrappers.Script.Utility

/-!
# Printing

Echoing words, and printing them by a format that is used again until no word is
left.
-/

namespace BuiltinWrappers.Script

open Text (Octets)

/-! ## Echo -/

structure EchoStyle where
  lineEnd : Bool
  escapes : Bool

def echoOptions (style : EchoStyle) : List Octets → EchoStyle × List Octets
  | [] => (style, [])
  | word :: words =>
      let letters := word.tail
      if word.head? = some '-' ∧ letters ≠ [] ∧ letters.all ("neE".toList.contains ·) then
        let style := letters.foldl (fun (style : EchoStyle) letter =>
          if letter = 'n' then { style with lineEnd := false }
          else { style with escapes := letter = 'e' }) style
        echoOptions style words
      else (style, word :: words)

def echo (dialect : Dialect) : Utility := fun arguments => do
  let (style, words) : EchoStyle × List Octets :=
    match dialect, arguments with
    | .plain, word :: words =>
        if word = "-n".toList then (⟨false, true⟩, words) else (⟨true, true⟩, word :: words)
    | .plain, [] => (⟨true, true⟩, [])
    | .extended, words => echoOptions ⟨true, false⟩ words
  let line := [' '].intercalate words
  let (text, goesOn) := if style.escapes then (EscapeStyle.echo dialect).read line else (line, true)
  Job.print (if style.lineEnd ∧ goesOn then text ++ ['\n'] else text)

/-! ## Formatted output -/

structure Directive where
  flags : List Char
  width : Int
  precision : Option Nat
  conversion : Char

def pad (directive : Directive) (text : Octets) : Octets :=
  let missing := directive.width.natAbs - text.length
  let blanks := List.replicate missing ' '
  if directive.flags.contains '-' ∨ directive.width < 0 then text ++ blanks else blanks ++ text

def padNumber (directive : Directive) (sign digits : Octets) : Octets :=
  let missing := directive.width.toNat - (sign.length + digits.length)
  if directive.flags.contains '0' ∧ !directive.flags.contains '-' ∧
      (directive.precision.isNone ∨ "feEgG".toList.contains directive.conversion) then
    sign ++ List.replicate missing '0' ++ digits
  else pad directive (sign ++ digits)

def atLeast (count : Nat) (digits : Octets) : Octets :=
  List.replicate (count - digits.length) '0' ++ digits

def leadingInteger (word : Octets) : Int × Bool :=
  match word with
  | '\'' :: character :: _ | '"' :: character :: _ => (character.toNat, true)
  | word =>
      let text := word.dropWhile (· = ' ')
      let negative := text.head? = some '-'
      let text := if negative ∨ text.head? = some '+' then text.tail else text
      let (base, text) :=
        match text with
        | '0' :: 'x' :: text | '0' :: 'X' :: text => (16, text)
        | '0' :: text => (8, '0' :: text)
        | text => (10, text)
      let digits := text.takeWhile (Text.isDigitOf base)
      let value : Int := Text.ofDigits base digits
      (if negative then -value else value,
        word = [] || (digits ≠ [] && (text.drop digits.length).isEmpty))

def signOf (directive : Directive) (negative : Bool) : Octets :=
  if negative then ['-']
  else if directive.flags.contains '+' then ['+']
  else if directive.flags.contains ' ' then [' ']
  else []

def formatInteger (directive : Directive) (value : Int) : Octets :=
  let unsigned := (value % 18446744073709551616).toNat
  let precision := directive.precision.getD 1
  let alternative := directive.flags.contains '#'
  match directive.conversion with
  | 'o' =>
      let digits := atLeast precision (Nat.toDigits 8 unsigned)
      padNumber directive [] (if alternative then '0' :: digits else digits)
  | 'x' =>
      padNumber directive (if alternative then ['0', 'x'] else [])
        (atLeast precision (Nat.toDigits 16 unsigned))
  | 'X' =>
      padNumber directive (if alternative then ['0', 'X'] else [])
        (atLeast precision ((Nat.toDigits 16 unsigned).map Char.toUpper))
  | 'u' => padNumber directive [] (atLeast precision (Text.decimalText unsigned))
  | _ =>
      padNumber directive (signOf directive (value < 0))
        (atLeast precision (Text.decimalText value.natAbs))

def decimal (word : Octets) : Binary64 × Bool :=
  let negative := word.head? = some '-'
  let text := if negative ∨ word.head? = some '+' then word.tail else word
  let whole := text.takeWhile Char.isDigit
  let rest := text.dropWhile Char.isDigit
  let (fraction, rest) :=
    match rest with
    | '.' :: rest => (rest.takeWhile Char.isDigit, rest.dropWhile Char.isDigit)
    | rest => ([], rest)
  let exponent :=
    match rest with
    | 'e' :: rest | 'E' :: rest => (Text.integer? rest).map (·, ([] : Octets))
    | _ => none
  let (power, rest) := exponent.getD (0, rest)
  let value := Binary64.ofDecimal? negative (Text.ofDigits 10 (whole ++ fraction))
    (power - fraction.length)
  (value.getD (.infinite negative), rest.isEmpty && (whole ++ fraction) ≠ [] || word.isEmpty)

def fixedPlaces (places : Nat) (significand : Nat) (exponent : Int) : Octets :=
  let (up, down) := Binary64.powerQuotient 2 exponent
  let scaled := Binary64.divideHalfEven (significand * Nat.pow 10 places * up) down
  let digits := atLeast (places + 1) (Text.decimalText scaled)
  let whole := digits.take (digits.length - places)
  if places = 0 then whole else whole ++ '.' :: digits.drop (digits.length - places)

def floorLog10 (numerator denominator : Nat) : Int :=
  let size (value : Nat) : Int := (Text.decimalText value).length
  let estimate := size numerator - size denominator
  let (up, down) := Binary64.powerQuotient 10 estimate
  if denominator * up ≤ numerator * down then estimate else estimate - 1

def leadingDigits (places : Nat) (significand : Nat) (exponent : Int) : Octets × Int :=
  if significand = 0 then (List.replicate (places + 1) '0', 0)
  else
    let (up, down) := Binary64.powerQuotient 2 exponent
    let (numerator, denominator) := (significand * up, down)
    let power := floorLog10 numerator denominator
    let (more, less) := Binary64.powerQuotient 10 ((places : Int) - power)
    let scaled := Binary64.divideHalfEven (numerator * more) (denominator * less)
    let digits := Text.decimalText scaled
    if places + 1 < digits.length then (digits.take (places + 1), power + 1) else (digits, power)

def withPoint (digits : Octets) : Octets :=
  if digits.length ≤ 1 then digits else digits.take 1 ++ '.' :: digits.drop 1

def scientific (letter : Char) (digits : Octets) (power : Int) : Octets :=
  withPoint digits ++ letter :: (if power < 0 then '-' else '+') ::
    atLeast 2 (Text.decimalText power.natAbs)

def withoutEndZeros (digits : Octets) : Octets :=
  if digits.contains '.' then
    ((digits.reverse.dropWhile (· = '0')).dropWhile (· = '.')).reverse
  else digits

def general (directive : Directive) (significand : Nat) (exponent : Int) : Octets :=
  let precision := max 1 (directive.precision.getD 6)
  let (digits, power) := leadingDigits (precision - 1) significand exponent
  let trim (text : Octets) : Octets :=
    if directive.flags.contains '#' then text else withoutEndZeros text
  if -4 ≤ power ∧ power < precision then
    trim (fixedPlaces (precision - 1 - power).toNat significand exponent)
  else
    let letter := if directive.conversion = 'G' then 'E' else 'e'
    let mantissa := trim (withPoint digits)
    mantissa ++ (scientific letter (digits.take 1) power).drop 1

def formatDecimal (directive : Directive) (value : Binary64) : Octets :=
  let places := directive.precision.getD 6
  match value with
  | .finite negative significand exponent =>
      let sign := signOf directive negative
      match directive.conversion with
      | 'e' | 'E' =>
          let (digits, power) := leadingDigits places significand exponent
          padNumber directive sign (scientific directive.conversion digits power)
      | 'g' | 'G' => padNumber directive sign (general directive significand exponent)
      | _ => padNumber directive sign (fixedPlaces places significand exponent)
  | .infinite negative => pad directive (signOf directive negative ++ "inf".toList)
  | .nan => pad directive "nan".toList

structure Printing where
  words : List Octets
  output : Octets := []
  used : Bool := false
  goesOn : Bool := true
  faults : List Octets := []

namespace Printing

def next (printing : Printing) : Octets × Printing :=
  match printing.words with
  | [] => ([], { printing with used := true })
  | word :: words => (word, { printing with words, used := true })

def emit (printing : Printing) (text : Octets) : Printing :=
  { printing with output := printing.output ++ text }

def blame (printing : Printing) (fault : Octets) : Printing :=
  { printing with faults := printing.faults ++ [fault] }

def count (printing : Printing) (format : Octets) : Int × Octets × Printing :=
  match format with
  | '*' :: format =>
      let (word, printing) := printing.next
      ((leadingInteger word).1, format, printing)
  | format =>
      (Text.ofDigits 10 (format.takeWhile Char.isDigit), format.dropWhile Char.isDigit, printing)

def convert (dialect : Dialect) (printing : Printing) (directive : Directive) : Printing :=
  match directive.conversion with
  | '%' => printing.emit ['%']
  | 's' =>
      let (word, printing) := printing.next
      printing.emit (pad directive (word.take (directive.precision.getD word.length)))
  | 'c' =>
      let (word, printing) := printing.next
      printing.emit (pad directive (word.take 1))
  | 'b' =>
      let (word, printing) := printing.next
      let (text, goesOn) := (EscapeStyle.argument dialect).read word
      { printing.emit (pad directive (text.take (directive.precision.getD text.length))) with
        goesOn }
  | 'q' =>
      let (word, printing) := printing.next
      printing.emit (pad directive (Quoting.backslashed word))
  | 'f' | 'F' | 'e' | 'E' | 'g' | 'G' =>
      let (word, printing) := printing.next
      let (value, whole) := decimal word
      let conversion := if directive.conversion = 'F' then 'f' else directive.conversion
      let printing := printing.emit (formatDecimal { directive with conversion } value)
      if whole then printing else printing.blame (word ++ ": expected numeric value".toList)
  | _ =>
      let (word, printing) := printing.next
      let (value, whole) := leadingInteger word
      let printing := printing.emit (formatInteger directive value)
      if whole then printing
      else
        let complaint :=
          match dialect with
          | .plain => ": expected numeric value"
          | .extended => ": invalid number"
        printing.blame (word ++ complaint.toList)

def conversions (dialect : Dialect) : List Char :=
  "%scbdiouxXfFeEgG".toList ++ if dialect = .extended then ['q'] else []

/-- Print by a format once. -/
def byFormat (dialect : Dialect) : (fuel : Nat) → Octets → Printing → Printing
  | 0, _, printing | _, [], printing => printing
  | fuel + 1, '\\' :: format, printing =>
      match (EscapeStyle.format dialect).escape? format with
      | none => { printing with goesOn := false }
      | some (meant, format) => byFormat dialect fuel format (printing.emit meant)
  | fuel + 1, '%' :: format, printing =>
      let flags := format.takeWhile ("-+ #0".toList.contains ·)
      let (width, format, printing) := printing.count (format.drop flags.length)
      let (precision, format, printing) : Option Nat × Octets × Printing :=
        match format with
        | '.' :: format =>
            let (precision, format, printing) := printing.count format
            (some precision.toNat, format, printing)
        | format => (none, format, printing)
      match format with
      | [] => printing.blame ("%: missing format character".toList)
      | conversion :: format =>
          if (conversions dialect).contains conversion then
            let printing := printing.convert dialect ⟨flags, width, precision, conversion⟩
            if printing.goesOn then byFormat dialect fuel format printing else printing
          else
            { printing.blame ('%' :: conversion :: ": invalid directive".toList) with
              goesOn := false }
  | fuel + 1, character :: format, printing =>
      byFormat dialect fuel format (printing.emit [character])

def again (dialect : Dialect) (format : Octets) : (fuel : Nat) → Printing → Printing
  | 0, printing => printing
  | fuel + 1, printing =>
      let printing := byFormat dialect (format.length + 1) format printing
      if printing.goesOn ∧ printing.used ∧ printing.words ≠ [] then
        again dialect format fuel printing
      else printing

end Printing

def printFormatted (dialect : Dialect) : Utility := fun arguments => do
  let arguments := if arguments.head? = some "--".toList then arguments.tail else arguments
  match arguments with
  | [] => Job.abort 2 "usage: printf format [arg ...]".toList
  | format :: words =>
      let printing := Printing.again dialect format (words.length + 1) { words }
      Job.print printing.output
      printing.faults.forM fun fault => do
        Job.complain fault
        Job.fail

end BuiltinWrappers.Script
