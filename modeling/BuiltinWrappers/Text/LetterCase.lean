/-!
# Letter case

The capital and the small form of a letter, for the Latin, Greek and Cyrillic
alphabets.  A letter outside of them is taken to have one form.
-/

namespace BuiltinWrappers.Text

/-- Blocks in which capital and small letters alternate, with the first code of each block. -/
def alternatingBlocks : List (Nat × Nat) :=
  [(0x100, 0x12F), (0x132, 0x137), (0x139, 0x148), (0x14A, 0x177), (0x179, 0x17E), (0x370, 0x373),
   (0x3D8, 0x3EF), (0x460, 0x481), (0x48A, 0x4BF), (0x4C1, 0x4CE), (0x4D0, 0x52F), (0x1E00, 0x1E95),
   (0x1EA0, 0x1EFF)]

/-- Capital letters that lie by a distance before their small ones: first, last, distance. -/
def shiftedBlocks : List (Nat × Nat × Nat) :=
  [(0xC0, 0xD6, 0x20), (0xD8, 0xDE, 0x20), (0x386, 0x386, 38), (0x388, 0x38A, 37),
   (0x38C, 0x38C, 64), (0x38E, 0x38F, 63), (0x391, 0x3A1, 0x20), (0x3A3, 0x3AB, 0x20),
   (0x400, 0x40F, 0x50), (0x410, 0x42F, 0x20), (0xFF21, 0xFF3A, 0x20)]

def smallCode (code : Nat) : Nat :=
  if code = 0x178 then 0xFF
  else
    match alternatingBlocks.find? fun (first, last) => first ≤ code && code ≤ last with
    | some (first, _) => if (code - first) % 2 = 0 then code + 1 else code
    | none =>
        match shiftedBlocks.find? fun (first, last, _) => first ≤ code && code ≤ last with
        | some (_, _, distance) => code + distance
        | none => code

def capitalCode (code : Nat) : Nat :=
  if code = 0xFF then 0x178
  else if code = 0xB5 then 0x39C
  else if code = 0x3C2 then 0x3A3
  else if code = 0x17F then 0x53
  else if code = 0x131 then 0x49
  else
    match alternatingBlocks.find? fun (first, last) => first ≤ code && code ≤ last with
    | some (first, _) => if (code - first) % 2 = 1 then code - 1 else code
    | none =>
        match shiftedBlocks.find? fun (first, last, distance) =>
            first + distance ≤ code && code ≤ last + distance with
        | some (_, _, distance) => code - distance
        | none => code

def toSmall (character : Char) : Char :=
  if character.toNat < 128 then character.toLower else Char.ofNat (smallCode character.toNat)

/-- The capital form of a letter, which may be two letters. -/
def toCapital (character : Char) : List Char :=
  if character.toNat < 128 then [character.toUpper]
  else if character = 'ß' then ['S', 'S']
  else [Char.ofNat (capitalCode character.toNat)]

def isCapital (character : Char) : Bool :=
  if character.toNat < 128 then character.isUpper else toSmall character ≠ character

def isSmall (character : Char) : Bool :=
  if character.toNat < 128 then character.isLower
  else toCapital character ≠ [character]

/-! ## Examples -/

example : toSmall 'É' = 'é' ∧ toCapital 'é' = ['É'] := by decide +kernel

example : toSmall 'Ж' = 'ж' ∧ toCapital 'ω' = ['Ω'] := by decide +kernel

end BuiltinWrappers.Text
