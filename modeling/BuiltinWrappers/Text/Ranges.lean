/-!
# Sets of code points

A set of characters is given by the inclusive code point ranges it covers, in
increasing order.  Looking a character up stops at the first range that begins
after it, so a character near the front of a long table is decided at once.
-/

namespace BuiltinWrappers.Text

abbrev Ranges := List (Nat × Nat)

namespace Ranges

def contains : Ranges → Nat → Bool
  | [], _ => false
  | (low, high) :: rest, code =>
      if code < low then false else code ≤ high || contains rest code

def member (ranges : Ranges) (character : Char) : Bool :=
  ranges.contains character.toNat

theorem contains_cons_iff {low high code : Nat} {rest : Ranges} :
    contains ((low, high) :: rest) code ↔ low ≤ code ∧ (code ≤ high ∨ rest.contains code) := by
  rw [contains]
  split
  next hlow => simp [Nat.not_le.mpr hlow]
  next hlow => simp [Nat.not_lt.mp hlow]

end Ranges

end BuiltinWrappers.Text
