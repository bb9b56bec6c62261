import BuiltinWrappers.Builtin.Catalog
import Mathlib.Data.List.Induction

/-!
# Which declaration a look-up finds

Of all declarations of a name the last one counts.  In a catalog that is read
from a text this is the declaration of the last line that declares the name, and
a name is missing exactly when no line declares it.
-/

namespace BuiltinWrappers.Catalog

/-! ## Declarations in order -/

theorem find?_ofDeclarations (declarations : List Declaration) (name : String) :
    (ofDeclarations declarations).find? name =
      declarations.reverse.find? fun declaration => declaration.name = name := by
  induction declarations using List.reverseRecOn with
  | nil => exact find?_empty name
  | append_singleton declarations declaration ih =>
      rw [ofDeclarations_append_singleton, find?_insert, ih, List.reverse_concat,
        List.find?_cons]
      by_cases hname : declaration.name = name <;> simp [hname]

/-! ## The lines of a text -/

/-- The line declares this name, and gives it this declaration. -/
def Declares (line : List Char) (name : String) (declaration : Declaration) : Prop :=
  Declaration.parse? line = some declaration ∧ declaration.name = name

/-- Of all lines of the text that declare the name this one comes last. -/
def DeclaredLast (text : List Char) (name : String) (line : List Char)
    (declaration : Declaration) : Prop :=
  ∃ before after, Text.lines text = before ++ line :: after ∧
    Declares line name declaration ∧
    ∀ later ∈ after, ∀ other, ¬Declares later name other

theorem DeclaredLast.declares {text line : List Char} {name : String}
    {declaration : Declaration} (h : DeclaredLast text name line declaration) :
    Declares line name declaration := by
  obtain ⟨_, _, -, hdeclares, -⟩ := h
  exact hdeclares

theorem DeclaredLast.isLibrary_iff {text line : List Char} {name : String}
    {declaration : Declaration} (h : DeclaredLast text name line declaration) :
    declaration.isLibrary ↔ Declaration.libraryMarker <+: line :=
  Declaration.isLibrary_iff_of_parse? h.declares.1

def Undeclared (text : List Char) (name : String) : Prop :=
  ∀ line ∈ Text.lines text, ∀ declaration, ¬Declares line name declaration

def declaresName (name : String) (line : List Char) : Bool :=
  (Declaration.parse? line).any fun declaration => declaration.name = name

private theorem declaresName_iff {name : String} {line : List Char} :
    declaresName name line ↔ ∃ declaration, Declares line name declaration := by
  simp [declaresName, Declares, Option.any_eq_true]

private theorem declaresName_eq_false_iff {name : String} {line : List Char} :
    declaresName name line = false ↔ ∀ declaration, ¬Declares line name declaration := by
  rw [← Bool.not_eq_true, declaresName_iff, not_exists]

theorem find?_ofText (text : List Char) (name : String) :
    (ofText text).find? name =
      ((Text.lines text).reverse.find? (declaresName name)).bind Declaration.parse? := by
  rw [ofText, find?_ofDeclarations, declarationsOf, ← List.filterMap_reverse,
    List.find?_filterMap]
  rfl

theorem find?_ofText_eq_some_iff {text : List Char} {name : String}
    {declaration : Declaration} :
    (ofText text).find? name = some declaration ↔
      ∃ line, DeclaredLast text name line declaration := by
  simp only [find?_ofText, Option.bind_eq_some_iff, List.find?_eq_some_iff_append,
    Bool.not_eq_true', declaresName_iff, declaresName_eq_false_iff]
  constructor
  · rintro ⟨line, ⟨⟨found, hfound⟩, after, before, hlines, hafter⟩, hparse⟩
    obtain rfl : found = declaration := Option.some.inj (hfound.1.symm.trans hparse)
    refine ⟨line, before.reverse, after.reverse, ?_, hfound, ?_⟩
    · rw [← List.reverse_reverse (Text.lines text), hlines]
      simp
    · intro later hlater
      exact hafter later (List.mem_reverse.mp hlater)
  · rintro ⟨line, before, after, hlines, hdeclares, hafter⟩
    refine ⟨line, ⟨⟨declaration, hdeclares⟩, after.reverse, before.reverse, ?_, ?_⟩,
      hdeclares.1⟩
    · rw [hlines]
      simp
    · intro later hlater
      exact hafter later (List.mem_reverse.mp hlater)

theorem find?_ofText_eq_none_iff {text : List Char} {name : String} :
    (ofText text).find? name = none ↔ Undeclared text name := by
  constructor
  · intro hnone line hline declaration hdeclares
    rw [find?_ofText] at hnone
    cases hfind : (Text.lines text).reverse.find? (declaresName name) with
    | none =>
        have hsilent := List.find?_eq_none.mp hfind line (List.mem_reverse.mpr hline)
        exact hsilent (declaresName_iff.mpr ⟨declaration, hdeclares⟩)
    | some found =>
        obtain ⟨stated, hstated⟩ := declaresName_iff.mp (List.find?_some hfind)
        rw [hfind, Option.bind_some, hstated.1] at hnone
        simp at hnone
  · intro hundeclared
    rw [Option.eq_none_iff_forall_ne_some]
    intro declaration hsome
    obtain ⟨line, before, after, hlines, hdeclares, -⟩ := find?_ofText_eq_some_iff.mp hsome
    exact hundeclared line (by simp [hlines]) declaration hdeclares

end BuiltinWrappers.Catalog
