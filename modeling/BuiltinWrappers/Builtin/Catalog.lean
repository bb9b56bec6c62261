import BuiltinWrappers.Builtin.Declaration
import BuiltinWrappers.Text.Lines
import Std.Data.ExtTreeMap

/-!
# Catalogs of declarations

A catalog holds the declarations of a text by name.  A later declaration of a
name takes the place of an earlier one, and every entry sits under its own name.
Catalogs with the same look-ups are equal.
-/

namespace BuiltinWrappers

structure Catalog where
  entries : Std.ExtTreeMap String Declaration
  named : ∀ (name : String) (declaration : Declaration),
    entries[name]? = some declaration → declaration.name = name

namespace Catalog

def empty : Catalog := ⟨∅, by simp⟩

def find? (catalog : Catalog) (name : String) : Option Declaration :=
  catalog.entries[name]?

def size (catalog : Catalog) : Nat := catalog.entries.size

def isEmpty (catalog : Catalog) : Bool := catalog.entries.isEmpty

/-- The declarations in increasing order of their names by code point. -/
def toList (catalog : Catalog) : List Declaration :=
  catalog.entries.toList.map Prod.snd

def insert (catalog : Catalog) (declaration : Declaration) : Catalog where
  entries := catalog.entries.insert declaration.name declaration
  named name found h := by
    rw [Std.ExtTreeMap.getElem?_insert] at h
    split at h
    next heq =>
      rw [← Option.some.inj h]
      exact Std.LawfulEqCmp.eq_of_compare heq
    · exact catalog.named name found h

/-- Insert a declaration and return the one whose place it takes. -/
def replace (catalog : Catalog) (declaration : Declaration) :
    Option Declaration × Catalog :=
  (catalog.find? declaration.name, catalog.insert declaration)

def ofDeclarations (declarations : List Declaration) : Catalog :=
  declarations.foldl insert empty

/-- The declarations of a text in the order of its lines. -/
def declarationsOf (text : List Char) : List Declaration :=
  (Text.lines text).filterMap Declaration.parse?

def ofText (text : List Char) : Catalog := ofDeclarations (declarationsOf text)

/-! ## Look-ups -/

@[ext] theorem ext {left right : Catalog}
    (h : ∀ name, left.find? name = right.find? name) : left = right := by
  obtain ⟨leftEntries, _⟩ := left
  obtain ⟨rightEntries, _⟩ := right
  have : leftEntries = rightEntries := Std.ExtTreeMap.ext_getElem? fun {name} => h name
  subst this
  rfl

@[simp] theorem find?_empty (name : String) : empty.find? name = none := by
  simp [find?, empty]

theorem find?_insert (catalog : Catalog) (declaration : Declaration)
    (name : String) :
    (catalog.insert declaration).find? name =
      if declaration.name = name then some declaration else catalog.find? name := by
  simp [find?, insert, Std.ExtTreeMap.getElem?_insert]

theorem name_of_find? {catalog : Catalog} {name : String}
    {declaration : Declaration} (h : catalog.find? name = some declaration) :
    declaration.name = name :=
  catalog.named name declaration h

theorem ofDeclarations_append_singleton (declarations : List Declaration)
    (declaration : Declaration) :
    ofDeclarations (declarations ++ [declaration]) =
      (ofDeclarations declarations).insert declaration := by
  simp [ofDeclarations]

end Catalog

end BuiltinWrappers
