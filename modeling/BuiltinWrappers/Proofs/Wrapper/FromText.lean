import BuiltinWrappers.Proofs.Catalog.History
import BuiltinWrappers.Proofs.Wrapper.Construction

/-!
# From the lines of a text to a wrapper

A name has a wrapper when the last line that declares it is a library line whose
signature begins with a code, and the last line that declares the builtin of the
same name redirects it.  The wrapper then comes from the library line alone.
Otherwise the first of these conditions that fails is the obstacle.
-/

namespace BuiltinWrappers.Catalog

/-! ## The conditions on a text -/

/-- The last line that declares the name is a library line. -/
def LibraryLast (text : List Char) (name : String) (library : Declaration) : Prop :=
  ∃ line, DeclaredLast text name line library ∧ Declaration.libraryMarker <+: line

/-- The last line that declares the builtin, in either form, redirects it. -/
def RedirectedLast (text : List Char) (builtin : String) : Prop :=
  ∃ line declaration, DeclaredLast text builtin line declaration ∧
    'F' ∈ declaration.attributes.toList

def BeginsWithCode (signature : String) : Prop :=
  ∃ code ∈ signature.toList.head?, code ∈ Signature.allCodes

/-- The first condition for a wrapper of the name that a text fails. -/
inductive FirstObstacle (text : List Char) (name : String) : Obstacle → Prop
  | missingLibrary (hmissing : Undeclared text name) :
      FirstObstacle text name .missingLibrary
  | notLibrary {line : List Char} {declaration : Declaration}
      (hlast : DeclaredLast text name line declaration)
      (hform : ¬Declaration.libraryMarker <+: line) :
      FirstObstacle text name .notLibrary
  | missingBuiltin {library : Declaration}
      (hlibrary : LibraryLast text name library)
      (hmissing : Undeclared text (builtinName name)) :
      FirstObstacle text name (.missingBuiltin (builtinName name))
  | notRedirected {library builtin : Declaration} {line : List Char}
      (hlibrary : LibraryLast text name library)
      (hlast : DeclaredLast text (builtinName name) line builtin)
      (hattributes : 'F' ∉ builtin.attributes.toList) :
      FirstObstacle text name (.notRedirected (builtinName name))
  | emptySignature {library : Declaration}
      (hlibrary : LibraryLast text name library)
      (hredirected : RedirectedLast text (builtinName name))
      (hsignature : ¬BeginsWithCode library.signature) :
      FirstObstacle text name (.emptySignature library.signature)

/-! ## The conditions in a catalog -/

theorem types_eq_nil_iff_not_beginsWithCode {signature : String} :
    Signature.types signature = [] ↔ ¬BeginsWithCode signature := by
  rw [Signature.types_eq_nil_iff, BeginsWithCode, not_exists]
  apply forall_congr'
  intro code
  rw [not_and, ← Signature.isCode_iff_mem, Bool.not_eq_true]

theorem isRedirected_iff {declaration : Declaration} :
    declaration.isRedirected ↔ 'F' ∈ declaration.attributes.toList := by
  simp [Declaration.isRedirected]

theorem libraryLast_iff {text : List Char} {name : String} {library : Declaration} :
    LibraryLast text name library ↔
      (ofText text).find? name = some library ∧ library.isLibrary := by
  rw [find?_ofText_eq_some_iff]
  constructor
  · rintro ⟨line, hlast, hmarker⟩
    exact ⟨⟨line, hlast⟩, hlast.isLibrary_iff.mpr hmarker⟩
  · rintro ⟨⟨line, hlast⟩, hform⟩
    exact ⟨line, hlast, hlast.isLibrary_iff.mp hform⟩

theorem redirectedLast_iff {text : List Char} {builtin : String} :
    RedirectedLast text builtin ↔
      ∃ declaration, (ofText text).find? builtin = some declaration ∧
        declaration.isRedirected := by
  simp only [RedirectedLast, find?_ofText_eq_some_iff, isRedirected_iff]
  constructor
  · rintro ⟨line, declaration, hlast, hattributes⟩
    exact ⟨declaration, ⟨line, hlast⟩, hattributes⟩
  · rintro ⟨declaration, ⟨line, hlast⟩, hattributes⟩
    exact ⟨line, declaration, hlast, hattributes⟩

theorem eligible_ofText_eq_ok_iff {text : List Char} {name : String}
    {library : Declaration} :
    (ofText text).eligible name = .ok library ↔
      LibraryLast text name library ∧ RedirectedLast text (builtinName name) := by
  rw [eligible_eq_ok_iff, libraryLast_iff, redirectedLast_iff, and_assoc]

theorem wrapper_ofText_eq_error_iff {text : List Char} {name : String}
    {obstacle : Obstacle} :
    (ofText text).wrapper name = .error obstacle ↔ FirstObstacle text name obstacle := by
  rw [wrapper_eq_error_iff, eligible_eq_error_iff]
  constructor
  · rintro ((⟨hnone, rfl⟩ | ⟨declaration, hfound, hrest⟩) |
      ⟨library, heligible, hnil, rfl⟩)
    · exact .missingLibrary (find?_ofText_eq_none_iff.mp hnone)
    · rcases hrest with ⟨hform, rfl⟩ | ⟨hform, hbuiltin⟩
      · obtain ⟨line, hlast⟩ := find?_ofText_eq_some_iff.mp hfound
        exact .notLibrary hlast (mt hlast.isLibrary_iff.mpr hform)
      · have hlibrary := libraryLast_iff.mpr ⟨hfound, hform⟩
        rcases hbuiltin with ⟨hnone, rfl⟩ | ⟨builtin, hbuiltin, hredirected, rfl⟩
        · exact .missingBuiltin hlibrary (find?_ofText_eq_none_iff.mp hnone)
        · obtain ⟨line, hlast⟩ := find?_ofText_eq_some_iff.mp hbuiltin
          exact .notRedirected hlibrary hlast (mt isRedirected_iff.mpr hredirected)
    · obtain ⟨hlibrary, hredirected⟩ := eligible_ofText_eq_ok_iff.mp heligible
      exact .emptySignature hlibrary hredirected
        (types_eq_nil_iff_not_beginsWithCode.mp hnil)
  · intro h
    cases h with
    | missingLibrary hmissing =>
        exact .inl (.inl ⟨find?_ofText_eq_none_iff.mpr hmissing, rfl⟩)
    | notLibrary hlast hform =>
        exact .inl (.inr ⟨_, find?_ofText_eq_some_iff.mpr ⟨_, hlast⟩,
          .inl ⟨mt hlast.isLibrary_iff.mp hform, rfl⟩⟩)
    | missingBuiltin hlibrary hmissing =>
        obtain ⟨hfound, hform⟩ := libraryLast_iff.mp hlibrary
        exact .inl (.inr ⟨_, hfound, .inr ⟨hform,
          .inl ⟨find?_ofText_eq_none_iff.mpr hmissing, rfl⟩⟩⟩)
    | notRedirected hlibrary hlast hattributes =>
        obtain ⟨hfound, hform⟩ := libraryLast_iff.mp hlibrary
        exact .inl (.inr ⟨_, hfound, .inr ⟨hform,
          .inr ⟨_, find?_ofText_eq_some_iff.mpr ⟨_, hlast⟩,
            mt isRedirected_iff.mp hattributes, rfl⟩⟩⟩)
    | emptySignature hlibrary hredirected hsignature =>
        exact .inr ⟨_, eligible_ofText_eq_ok_iff.mpr ⟨hlibrary, hredirected⟩,
          types_eq_nil_iff_not_beginsWithCode.mpr hsignature, rfl⟩

/-! ## The outcome -/

/--
Whether a text gives a name a wrapper, which one, and what else stands in its
way.  The signature of the builtin plays no part.
-/
theorem wrapperText_ofText (text : List Char) (name : String) :
    ((∃ rendered, (ofText text).wrapperText name = .ok rendered) ↔
      (∃ library, LibraryLast text name library ∧ BeginsWithCode library.signature) ∧
        RedirectedLast text (builtinName name)) ∧
    (∀ rendered, (ofText text).wrapperText name = .ok rendered →
      ∃ library wrapper, LibraryLast text name library ∧
        Wrapper.ofDeclaration library = .ok wrapper ∧ rendered = wrapper.render) ∧
    ∀ fault, (ofText text).wrapperText name = .error fault ↔
      ∃ obstacle, FirstObstacle text name obstacle ∧
        fault = .notWrappable name obstacle := by
  refine ⟨?_, ?_, ?_⟩
  · constructor
    · rintro ⟨rendered, hrendered⟩
      obtain ⟨wrapper, hwrapper, -⟩ := wrapperText_eq_ok_iff.mp hrendered
      obtain ⟨library, heligible, hbuilt⟩ := wrapper_eq_ok_iff.mp hwrapper
      obtain ⟨hlibrary, hredirected⟩ := eligible_ofText_eq_ok_iff.mp heligible
      refine ⟨⟨library, hlibrary, ?_⟩, hredirected⟩
      by_contra hsignature
      have hnil := types_eq_nil_iff_not_beginsWithCode.mpr hsignature
      rw [Wrapper.types_of_ofDeclaration hbuilt] at hnil
      exact List.cons_ne_nil _ _ hnil
    · rintro ⟨⟨library, hlibrary, hsignature⟩, hredirected⟩
      have heligible := eligible_ofText_eq_ok_iff.mpr ⟨hlibrary, hredirected⟩
      cases hbuilt : Wrapper.ofDeclaration library with
      | error obstacle =>
          obtain ⟨hnil, -⟩ := Wrapper.ofDeclaration_eq_error_iff.mp hbuilt
          exact absurd hsignature (types_eq_nil_iff_not_beginsWithCode.mp hnil)
      | ok wrapper =>
          exact ⟨wrapper.render, wrapperText_eq_ok_iff.mpr
            ⟨wrapper, wrapper_eq_ok_iff.mpr ⟨library, heligible, hbuilt⟩, rfl⟩⟩
  · intro rendered hrendered
    obtain ⟨wrapper, hwrapper, rfl⟩ := wrapperText_eq_ok_iff.mp hrendered
    obtain ⟨library, heligible, hbuilt⟩ := wrapper_eq_ok_iff.mp hwrapper
    exact ⟨library, wrapper, (eligible_ofText_eq_ok_iff.mp heligible).1, hbuilt, rfl⟩
  · intro fault
    simp only [wrapperText_eq_error_iff, wrapper_ofText_eq_error_iff]

end BuiltinWrappers.Catalog
