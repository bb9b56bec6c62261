import BuiltinWrappers.Toml.Moment
import BuiltinWrappers.Toml.Number

/-!
# Values of a document

A document is a table from keys to values.  The entries of a table stand in
increasing order of their keys by code point, whatever their order in the text.
-/

namespace BuiltinWrappers.Toml

inductive Value where
  | string (text : String)
  | number (value : Number)
  | boolean (value : Bool)
  | moment (value : Moment)
  | array (items : List Value)
  | table (entries : List (String × Value))
  deriving Repr

abbrev Table := List (String × Value)

/-! ## Entries sorted by key -/

def lookup? {α : Type} (key : String) (entries : List (String × α)) : Option α :=
  (entries.find? fun entry => entry.1 = key).map Prod.snd

def insertEntry {α : Type} (key : String) (value : α) :
    List (String × α) → List (String × α)
  | [] => [(key, value)]
  | (other, otherValue) :: entries =>
      if key = other then (key, value) :: entries
      else if key < other then (key, value) :: (other, otherValue) :: entries
      else (other, otherValue) :: insertEntry key value entries

theorem lookup?_insertEntry_self {α : Type} (key : String) (value : α)
    (entries : List (String × α)) :
    lookup? key (insertEntry key value entries) = some value := by
  induction entries with
  | nil => simp [lookup?, insertEntry]
  | cons entry entries ih =>
      obtain ⟨other, otherValue⟩ := entry
      rw [insertEntry]
      split
      · simp [lookup?]
      next hne =>
        split
        · simp [lookup?]
        · simpa [lookup?, List.find?_cons, Ne.symm hne] using ih

end BuiltinWrappers.Toml
