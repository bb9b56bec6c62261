import BuiltinWrappers.Script.Indented.Value

/-!
# Coding texts

Texts are written as octets and read from them in several codings.  A handling
says what becomes of what a coding has no place for.
-/

namespace BuiltinWrappers.Script.Indented

open Text (Octets)

def encoded (characters : List Char) : Octets := Octets.ofString (String.ofList characters)

namespace Coding

inductive Scheme where
  | ascii
  | latin
  | wide (isMarked isSwapped : Bool) (width : Nat)
  | plain (isMarked : Bool)
  deriving DecidableEq, Repr

def ofName? (name : String) : Option Scheme :=
  let plain := (name.toList.map Char.toLower).filter fun character =>
    character ≠ '-' ∧ character ≠ '_' ∧ character ≠ ' '
  match String.ofList plain with
  | "utf8" | "u8" | "utf" | "cp65001" => some (.plain false)
  | "utf8sig" => some (.plain true)
  | "ascii" | "usascii" | "646" => some .ascii
  | "latin1" | "iso88591" | "l1" | "latin" | "88591" | "cp819" => some .latin
  | "utf16" | "u16" => some (.wide true false 2)
  | "utf16le" => some (.wide false false 2)
  | "utf16be" => some (.wide false true 2)
  | "utf32" | "u32" => some (.wide true false 4)
  | "utf32le" => some (.wide false false 4)
  | "utf32be" => some (.wide false true 4)
  | _ => none

def codingOf (name : String) : Eval Scheme := do
  match ofName? name with
  | some coding => return coding
  | none => Eval.fail "LookupError" ("unknown encoding: " ++ name)

/-! ## Reading octets -/

def strayStart : Nat := 0x10FF00

def stray (octet : Char) : Char := Char.ofNat (strayStart + octet.toNat)

def strayOctet? (character : Char) : Option Char :=
  if strayStart + 128 ≤ character.toNat ∧ character.toNat < strayStart + 256 then
    some (Char.ofNat (character.toNat - strayStart))
  else none

def handled? (handling : String) (octets : Octets) : Option (List Char) :=
  match handling with
  | "ignore" => some []
  | "replace" => some ['\ufffd']
  | "surrogateescape" => some (octets.map stray)
  | "backslashreplace" => some (octets.flatMap fun octet =>
      let digits := Nat.toDigits 16 octet.toNat
      '\\' :: 'x' :: (List.replicate (2 - digits.length) '0' ++ digits))
  | _ => none

def lead? (octet : Nat) : Option (Nat × Nat) :=
  if octet < 0x80 then some (0, octet)
  else if 0xC2 ≤ octet ∧ octet < 0xE0 then some (1, octet - 0xC0)
  else if 0xE0 ≤ octet ∧ octet < 0xF0 then some (2, octet - 0xE0)
  else if 0xF0 ≤ octet ∧ octet < 0xF5 then some (3, octet - 0xF0)
  else none

def secondFits (first second : Nat) : Bool :=
  match first with
  | 0xE0 => 0xA0 ≤ second
  | 0xED => second < 0xA0
  | 0xF0 => 0x90 ≤ second
  | 0xF4 => second < 0x90
  | _ => true

/--
The first character of octets, or none if they begin with no character, and how
many octets it takes or stand in the way.
-/
def firstCharacter (octets : Octets) : Option Char × Nat :=
  match octets with
  | [] => (none, 0)
  | first :: rest =>
      match lead? first.toNat with
      | none => (none, 1)
      | some (count, bits) =>
          let following := (rest.take count).zipIdx.takeWhile fun (octet, index) =>
            0x80 ≤ octet.toNat && octet.toNat < 0xC0 &&
              (index ≠ 0 || secondFits first.toNat octet.toNat)
          if following.length < count then (none, 1 + following.length)
          else
            let code := following.foldl (fun code (octet, _) => 64 * code + (octet.toNat - 0x80)) bits
            (some (Char.ofNat code), 1 + count)

inductive Decoded where
  | text (characters : List Char)
  | stuck (start size : Nat)

def decodedPlain (handling : String) :
    (fuel : Nat) → (found : List Char) → (start : Nat) → Octets → Decoded
  | 0, found, _, _ => .text found.reverse
  | _ + 1, found, _, [] => .text found.reverse
  | fuel + 1, found, start, octet :: rest =>
      if octet.toNat < 0x80 then decodedPlain handling fuel (octet :: found) (start + 1) rest
      else
        match firstCharacter (octet :: rest) with
        | (some character, size) =>
            decodedPlain handling fuel (character :: found) (start + size) (rest.drop (size - 1))
        | (none, size) =>
            match handled? handling ((octet :: rest).take size) with
            | some characters =>
                decodedPlain handling fuel (characters.reverse ++ found) (start + size)
                  (rest.drop (size - 1))
            | none => .stuck start size

def decodedAscii (handling : String) :
    (found : List Char) → (start : Nat) → Octets → Decoded
  | found, _, [] => .text found.reverse
  | found, start, octet :: rest =>
      if octet.toNat < 128 then decodedAscii handling (octet :: found) (start + 1) rest
      else
        match handled? handling [octet] with
        | some characters =>
            decodedAscii handling (characters.reverse ++ found) (start + 1) rest
        | none => .stuck start 1

def units (isSwapped : Bool) (width : Nat) : (fuel : Nat) → Octets → List Nat
  | 0, _ | _, [] => []
  | fuel + 1, octets =>
      let group := octets.take width
      let group := if isSwapped then group else group.reverse
      group.foldl (fun code octet => 256 * code + octet.toNat) 0 ::
        units isSwapped width fuel (octets.drop width)

def joinedUnits : List Nat → List Char
  | high :: low :: rest =>
      if 0xD800 ≤ high ∧ high < 0xDC00 ∧ 0xDC00 ≤ low ∧ low < 0xE000 then
        Char.ofNat (0x10000 + (high - 0xD800) * 1024 + (low - 0xDC00)) :: joinedUnits rest
      else Char.ofNat high :: joinedUnits (low :: rest)
  | [unit] => [Char.ofNat unit]
  | [] => []

def decodedWide (isMarked isSwapped : Bool) (width : Nat) (octets : Octets) : List Char :=
  let plain := units false width octets.length octets
  let isSwapped := if isMarked then plain.head? = some (0xFFFE <<< (8 * (width - 2))) else isSwapped
  let found := joinedUnits (units isSwapped width octets.length octets)
  if isMarked ∧ found.head? = some '\ufeff' then found.tail else found

def decode (encoding handling : String) (octets : Octets) : Eval (List Char) := do
  let coding ← codingOf encoding
  let result : Decoded :=
    match coding with
    | .latin => .text octets
    | .ascii => decodedAscii handling [] 0 octets
    | .wide isMarked isSwapped width => .text (decodedWide isMarked isSwapped width octets)
    | .plain isMarked =>
        let octets := if isMarked ∧ (encoded ['\ufeff']).isPrefixOf octets then octets.drop 3
          else octets
        decodedPlain handling (octets.length + 1) [] 0 octets
  match result with
  | .text characters => return characters
  | .stuck start size =>
      let reason := if coding = .ascii then "ordinal not in range(128)"
        else if start + size = octets.length ∧ (lead? ((octets[start]?).getD ' ').toNat).isSome then
          "unexpected end of data"
        else if (lead? ((octets[start]?).getD ' ').toNat).isSome then "invalid continuation byte"
        else "invalid start byte"
      let name := if coding = .ascii then "ascii" else "utf-8"
      Eval.raise "UnicodeDecodeError" [.ofString name, .bytes octets, .ofNat start,
        .ofNat (start + size), .ofString reason]

def ofSystem (octets : Octets) : List Char :=
  match decodedPlain "surrogateescape" (octets.length + 1) [] 0 octets with
  | .text characters => characters
  | .stuck _ _ => []

/-! ## Writing octets -/

def replacement? (handling : String) (character : Char) : Option Octets :=
  match handling with
  | "ignore" => some []
  | "replace" => some ['?']
  | "xmlcharrefreplace" => some ('&' :: '#' :: Text.decimalText character.toNat ++ [';'])
  | "backslashreplace" =>
      let digits := Nat.toDigits 16 character.toNat
      let (letter, width) :=
        if character.toNat < 256 then ('x', 2) else if character.toNat < 65536 then ('u', 4)
        else ('U', 8)
      some ('\\' :: letter :: (List.replicate (width - digits.length) '0' ++ digits))
  | "surrogateescape" => (strayOctet? character).map ([·])
  | _ => none

def encodedBelow (limit : Nat) (name handling : String) (characters : List Char) :
    Eval Octets := do
  let parts ← characters.zipIdx.mapM fun (character, index) => do
    if character.toNat < limit then return [character]
    match replacement? handling character with
    | some octets => return octets
    | none =>
        Eval.raise "UnicodeEncodeError" [.ofString name, .text characters, .ofNat index,
          .ofNat (index + 1), .ofString ("ordinal not in range(" ++ Nat.repr limit ++ ")")]
  return parts.flatten

def unitOctets (isSwapped : Bool) (width unit : Nat) : Octets :=
  let octets := (List.range width).map fun index => Char.ofNat (unit / Nat.pow 256 index % 256)
  if isSwapped then octets.reverse else octets

def encodedWide (isSwapped : Bool) (width : Nat) (character : Char) : Octets :=
  let code := character.toNat
  if width = 2 ∧ 65536 ≤ code then
    unitOctets isSwapped 2 (0xD800 + (code - 65536) / 1024) ++
      unitOctets isSwapped 2 (0xDC00 + (code - 65536) % 1024)
  else unitOctets isSwapped width code

def encode (encoding handling : String) (characters : List Char) : Eval Octets := do
  match ← codingOf encoding with
  | .latin => encodedBelow 256 "latin-1" handling characters
  | .ascii => encodedBelow 128 "ascii" handling characters
  | .wide isMarked isSwapped width =>
      let marked := if isMarked then '\ufeff' :: characters else characters
      return marked.flatMap (encodedWide isSwapped width)
  | .plain isMarked =>
      let octets := characters.flatMap fun character =>
        match strayOctet? character with
        | some octet => [octet]
        | none => if character.toNat < 128 then [character] else encoded [character]
      return if isMarked then encoded ['\ufeff'] ++ octets else octets

end Coding

end BuiltinWrappers.Script.Indented
