import BuiltinWrappers.Script.Utility.Lines

/-!
# Writing octets by other signs

Octets in groups of six bits, each written by one of sixty-four signs, and dumps
in which every octet or word is written as a number.
-/

namespace BuiltinWrappers.Script

open Text (Octets)
open Job

/-! ## Sixty-four signs -/

namespace Base64

def signs : List Char :=
  "ABCDEFGHIJKLMNOPQRSTUVWXYZabcdefghijklmnopqrstuvwxyz0123456789+/".toList

def sign (value : Nat) : Char := (signs[value % 64]?).getD '='

def encode : Octets → Octets
  | [] => []
  | [one] => [sign (one.toNat / 4), sign (one.toNat % 4 * 16), '=', '=']
  | [one, two] =>
      [sign (one.toNat / 4), sign (one.toNat % 4 * 16 + two.toNat / 16),
        sign (two.toNat % 16 * 4), '=']
  | one :: two :: three :: rest =>
      sign (one.toNat / 4) :: sign (one.toNat % 4 * 16 + two.toNat / 16) ::
        sign (two.toNat % 16 * 4 + three.toNat / 64) :: sign three.toNat :: encode rest

def decode : Octets → Octets × Bool
  | [] => ([], true)
  | one :: two :: three :: four :: rest =>
      match signs.idxOf? one, signs.idxOf? two, signs.idxOf? three, signs.idxOf? four with
      | some a, some b, some c, some d =>
          let (octets, whole) := decode rest
          (Char.ofNat (a * 4 + b / 16) :: Char.ofNat (b % 16 * 16 + c / 4) ::
            Char.ofNat (c % 4 * 64 + d) :: octets, whole)
      | some a, some b, some c, none =>
          ([Char.ofNat (a * 4 + b / 16), Char.ofNat (b % 16 * 16 + c / 4)],
            four = '=' && rest.isEmpty)
      | some a, some b, none, none =>
          ([Char.ofNat (a * 4 + b / 16)], three = '=' && four = '=' && rest.isEmpty)
      | _, _, _, _ => ([], false)
  | _ => ([], false)

end Base64

def base64 : Utility := fun arguments => do
  let options ← options
    { flags := "di", valued := "w"
      long := [("decode", 'd'), ("ignore-garbage", 'i'), ("wrap", 'w')] } arguments
  match ← read (options.operands.headD ['-']) with
  | .error fault => abort 1 (options.operands.headD [] ++ ": ".toList ++ wording fault)
  | .ok content =>
      if options.has 'd' then
        let kept := content.filter fun octet =>
          if options.has 'i' then Base64.signs.contains octet || octet = '=' else octet ≠ '\n'
        let (octets, whole) := Base64.decode kept
        print octets
        if !whole then abort 1 "invalid input".toList
      else
        let width := ((options.value? 'w').map (Text.ofDigits 10)).getD 76
        let text := Base64.encode content
        if width = 0 then print text
        else print (unlines (foldLine width (text.length + 1) text |>.filter (· ≠ [])))

/-! ## Dumps -/

namespace Dump

structure Form where
  letter : Char
  size : Nat

def namedControls : List String :=
  ["nul", "soh", "stx", "etx", "eot", "enq", "ack", "bel", "bs", "ht", "nl", "vt", "ff", "cr",
   "so", "si", "dle", "dc1", "dc2", "dc3", "dc4", "nak", "syn", "etb", "can", "em", "sub",
   "esc", "fs", "gs", "rs", "us", "sp"]

def octalThree (code : Nat) : Octets :=
  let digits := Nat.toDigits 8 code
  List.replicate (3 - digits.length) '0' ++ digits

def character (octet : Char) : Octets :=
  match octet with
  | '\x00' => ['\\', '0']
  | '\x07' => ['\\', 'a']
  | '\x08' => ['\\', 'b']
  | '\t' => ['\\', 't']
  | '\n' => ['\\', 'n']
  | '\x0b' => ['\\', 'v']
  | '\x0c' => ['\\', 'f']
  | '\r' => ['\\', 'r']
  | octet => if 32 ≤ octet.toNat ∧ octet.toNat < 127 then [octet] else octalThree octet.toNat

def named (octet : Char) : Octets :=
  let code := octet.toNat % 128
  match namedControls[code]? with
  | some name => name.toList
  | none => if code = 127 then "del".toList else [Char.ofNat code]

def width (form : Form) : Nat :=
  match form.letter with
  | 'c' | 'a' => 3
  | 'x' => 2 * form.size
  | 'o' => (8 * form.size + 2) / 3
  | _ => (Nat.toDigits 10 (Nat.pow 256 form.size - 1)).length + if form.letter = 'd' then 1 else 0

def numberOf : Octets → Nat
  | [] => 0
  | octet :: rest => octet.toNat + 256 * numberOf rest

def numberText (form : Form) (unit : Octets) : Octets :=
  let value := numberOf unit
  let half := Nat.pow 256 form.size / 2
  let zeros (digits : Octets) : Octets :=
    List.replicate (width form - digits.length) '0' ++ digits
  match form.letter with
  | 'x' => zeros (Nat.toDigits 16 value)
  | 'o' => zeros (Nat.toDigits 8 value)
  | 'd' =>
      let signed : Int := if half ≤ value then (value : Int) - 2 * half else value
      Text.integerText signed
  | _ => Text.decimalText value

def unitText (form : Form) (unit : Octets) : Octets :=
  let text :=
    match form.letter, unit with
    | 'c', octet :: _ => character octet
    | 'a', octet :: _ => named octet
    | _, unit => numberText form unit
  ' ' :: rightAligned (width form) text

def units (size : Nat) : (fuel : Nat) → Octets → List Octets
  | 0, _ => []
  | fuel + 1, octets =>
      if octets.isEmpty then [] else octets.take size :: units size fuel (octets.drop size)

def lineText (form : Form) (octets : Octets) : Octets :=
  (units form.size octets.length octets).flatMap (unitText form)

def address (base : Char) (value : Nat) : Octets :=
  let padded (count : Nat) (digits : Octets) : Octets :=
    List.replicate (count - digits.length) '0' ++ digits
  match base with
  | 'n' => []
  | 'd' => padded 7 (Text.decimalText value)
  | 'x' => padded 6 (Nat.toDigits 16 value)
  | _ => padded 7 (Nat.toDigits 8 value)

def lines (form : Form) (base : Char) (all : Bool) : (start : Nat) → (previous : Option Octets) →
    (starred : Bool) → List Octets → List Octets
  | start, _, _, [] => if base = 'n' then [] else [address base start]
  | start, previous, starred, octets :: rest =>
      let next := start + octets.length
      if !all ∧ previous = some octets ∧ !rest.isEmpty then
        let others := lines form base all next previous true rest
        if starred then others else ['*'] :: others
      else
        (address base start ++ lineText form octets) ::
          lines form base all next (some octets) false rest

def formOf (text : Octets) : Form :=
  match text with
  | 'c' :: _ => ⟨'c', 1⟩
  | 'a' :: _ => ⟨'a', 1⟩
  | letter :: size =>
      let size := size.takeWhile Char.isAlphanum
      let count :=
        match size with
        | [] => 4
        | ['C'] => 1
        | ['S'] => 2
        | ['I'] => 4
        | ['L'] => 8
        | digits => Text.ofDigits 10 digits
      ⟨letter, max count 1⟩
  | [] => ⟨'o', 2⟩

end Dump

def od : Utility := fun arguments => do
  let options ← options
    { flags := "cbxdoav", valued := "AtNjw"
      long := [("address-radix", 'A'), ("format", 't'), ("read-bytes", 'N'), ("skip-bytes", 'j'),
        ("output-duplicates", 'v'), ("width", 'w')] } arguments
  let content ← readAll options.operands
  let number (letter : Char) : Option Nat := (options.value? letter).map countOf
  let skipped := content.drop ((number 'j').getD 0)
  let octets := skipped.take ((number 'N').getD skipped.length)
  let form : Dump.Form :=
    match options.value? 't' with
    | some text => Dump.formOf text
    | none =>
        if options.has 'c' then ⟨'c', 1⟩
        else if options.has 'b' then ⟨'o', 1⟩
        else if options.has 'x' then ⟨'x', 2⟩
        else if options.has 'd' then ⟨'u', 2⟩
        else if options.has 'a' then ⟨'a', 1⟩
        else ⟨'o', 2⟩
  let base := ((options.value? 'A').bind List.head?).getD 'o'
  let width := max 1 ((number 'w').getD 16)
  let parts := Dump.units width (octets.length + 1) octets
  print (unlines (Dump.lines form base (options.has 'v') ((number 'j').getD 0) none false parts))

/-! ## Examples -/

example : Base64.encode "abcd".toList = "YWJjZA==".toList := by decide +kernel

example : Base64.decode "YWJjZA==".toList = ("abcd".toList, true) := by decide +kernel

end BuiltinWrappers.Script
