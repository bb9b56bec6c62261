import BuiltinWrappers.Proofs.Catalog.LineEndings
import BuiltinWrappers.Proofs.Settings.Identifiers

/-!
# Names that a source can declare

Every C identifier is a run of word characters, so a line of either form can
declare it.  For any list of identifiers there is a source with a redirected
library line for each of them and for the builtin behind it, and that source
makes all of them eligible for a wrapper at once.
-/

namespace BuiltinWrappers

open Text

/-! ## Identifiers are word characters -/

theorem isWord_of_isIdentifierCharacter {character : Char}
    (h : isIdentifierCharacter character) : isWord character := by
  obtain ⟨rest, hranges⟩ : ∃ rest, wordRanges =
      (0x30, 0x39) :: (0x41, 0x5A) :: (0x5F, 0x5F) :: (0x61, 0x7A) :: rest := ⟨_, rfl⟩
  rw [isWord, Ranges.member, hranges]
  simp only [Ranges.contains_cons_iff]
  rcases isIdentifierCharacter_iff.mp h with hletter | hdigit | rfl
  · simp [IsLetter, Char.le_def, UInt32.le_iff_toNat_le] at hletter
    omega
  · simp [IsDigit, Char.le_def, UInt32.le_iff_toNat_le] at hdigit
    omega
  · simp

namespace Declaration

/-! ## Lines that declare a name -/

theorem parse?_plainText (parts : CommonParts) (tail : List Char) :
    parse? (parts.plainText ++ tail) = some parts.declaration := by
  have hplain := parsePlain?_eq_some_iff.mpr ⟨parts, tail, rfl, rfl⟩
  have hlibrary := (parseLibrary?_eq_none_or (parts.plainText ++ tail)).resolve_right
    (by simp [hplain])
  rw [parse?_eq_or, hplain, hlibrary, Option.none_or]

theorem parse?_libraryText (parts : LibraryParts) (tail : List Char) :
    parse? (parts.text ++ tail) = some parts.declaration := by
  rw [parse?_eq_or, parseLibrary?_eq_some_iff.mpr ⟨parts, tail, rfl, rfl⟩, Option.some_or]

/--
Lines of both forms with the name in its place declare it, whatever their other
parts and the text behind them are.
-/
def AcceptsName (name : String) : Prop :=
  ∃ run : Run isWord, run.characters = name.toList ∧
    (∀ (parts : CommonParts) (tail : List Char),
      parse? ({ parts with name := run }.plainText ++ tail) =
        some { parts.declaration with name }) ∧
    ∀ (parts : LibraryParts) (tail : List Char),
      parse? ({ parts with common := { parts.common with name := run } }.text ++ tail) =
        some { parts.declaration with name }

def nameRun (name : String) (h : isIdentifier name) : Run isWord where
  characters := name.toList
  characters_ne_nil := by
    obtain ⟨first, rest, hcons, -⟩ := isIdentifier_iff.mp h
    simp [hcons]
  accepted _ hmem := isWord_of_isIdentifierCharacter (isIdentifierCharacter_of_mem h hmem)

theorem acceptsName_of_isIdentifier {name : String} (h : isIdentifier name) :
    AcceptsName name := by
  refine ⟨nameRun name h, rfl, ?_, ?_⟩
  · intro parts tail
    rw [parse?_plainText]
    simp [CommonParts.declaration, nameRun]
  · intro parts tail
    rw [parse?_libraryText]
    simp [LibraryParts.declaration, CommonParts.declaration, nameRun]

/-! ## Redirected library lines -/

def redirected (name : String) : Declaration where
  name
  signature := "v"
  attributes := "F"
  kind := .library "h" "L"

theorem isRedirected_redirected (name : String) : (redirected name).isRedirected := by
  have hflag : "F".toList.contains 'F' := by decide
  exact hflag

def comma : Run isGapCharacter := .single ',' (by decide)

def redirectedParts (name : Run isWord) : LibraryParts where
  common := {
    name
    afterName := comma
    signature := .single 'v' (by decide)
    afterSignature := comma
    attributes := .single 'F' (by decide) }
  afterAttributes := comma
  header := .single 'h' (by decide)
  afterHeader := comma
  languages := .single 'L' (by decide)

def redirectedEnd : List Char := ",\"v\",\"F\",h,L)".toList

def redirectedLine (name : String) : List Char :=
  libraryMarker ++ '(' :: (name.toList ++ redirectedEnd)

theorem redirectedParts_text (name : Run isWord) :
    (redirectedParts name).text = redirectedLine (.ofList name.characters) := by
  rw [← List.append_nil (redirectedParts name).text, LibraryParts.text_append,
    CommonParts.text_append, redirectedLine, String.toList_ofList]
  rfl

theorem redirectedParts_declaration (name : Run isWord) :
    (redirectedParts name).declaration = redirected (.ofList name.characters) := by
  simp [redirectedParts, LibraryParts.declaration, CommonParts.declaration, Run.single, redirected]

theorem parse?_redirectedLine {name : String} (h : isIdentifier name) :
    parse? (redirectedLine name) = some (redirected name) := by
  have hparse := parse?_libraryText (redirectedParts (nameRun name h)) []
  have hname : String.ofList (nameRun name h).characters = name := String.ofList_toList
  rwa [List.append_nil, redirectedParts_text, redirectedParts_declaration, hname] at hparse

end Declaration

/-! ## A source for all names -/

namespace Catalog

open Declaration (redirected redirectedLine)

def redirectingText (names : List String) : List Char :=
  names.flatMap fun name => redirectedLine name ++ ['\n']

theorem declarationsOf_redirectingText {names : List String}
    (h : ∀ name ∈ names, isIdentifier name) :
    declarationsOf (redirectingText names) = names.map redirected := by
  induction names with
  | nil => rfl
  | cons name names ih =>
      rw [List.forall_mem_cons] at h
      have hname : '\n' ∉ name.toList := not_mem_of_isIdentifier h.1 (by decide)
      have hends : '\n' ∉ Declaration.libraryMarker ∧ '\n' ∉ Declaration.redirectedEnd := by
        decide
      have hline : '\n' ∉ redirectedLine name := by
        simp [redirectedLine, hends, hname]
      have hcut : redirectingText (name :: names) =
          redirectedLine name ++ '\n' :: redirectingText names := by
        simp [redirectingText]
      rw [hcut, declarationsOf_append_lineFeed, declarationsOf_line hline,
        Declaration.parse?_redirectedLine h.1, ih h.2]
      rfl

/-- All declarations of one name are equal here, so it does not matter which one comes last. -/
theorem find?_redirectingText {names : List String} (h : ∀ name ∈ names, isIdentifier name)
    {name : String} (hname : name ∈ names) :
    (ofText (redirectingText names)).find? name = some (redirected name) := by
  rw [ofText, declarationsOf_redirectingText h, find?_ofDeclarations]
  cases hfind : (names.map redirected).reverse.find? (·.name = name) with
  | none =>
      have hmem : redirected name ∈ (names.map redirected).reverse :=
        List.mem_reverse.mpr (List.mem_map_of_mem hname)
      simpa [redirected] using List.find?_eq_none.mp hfind _ hmem
  | some found =>
      have hmem := List.mem_reverse.mp (List.mem_of_find?_eq_some hfind)
      obtain ⟨other, -, rfl⟩ := List.mem_map.mp hmem
      have hsatisfied := List.find?_some hfind
      have hother : other = name := of_decide_eq_true hsatisfied
      rw [hother]

theorem exists_text_eligible {names : List String} (h : ∀ name ∈ names, isIdentifier name) :
    ∃ text, ∀ name ∈ names, ∃ library, (ofText text).eligible name = .ok library := by
  have hall : ∀ name ∈ names ++ names.map builtinName, isIdentifier name := by
    rw [List.forall_mem_append, List.forall_mem_map]
    exact ⟨h, fun name hname => isIdentifier_builtinName (h name hname)⟩
  refine ⟨redirectingText (names ++ names.map builtinName), fun name hname => ?_⟩
  have hfound := find?_redirectingText hall (List.mem_append_left _ hname)
  have hbuiltin := find?_redirectingText hall
    (List.mem_append_right _ (List.mem_map_of_mem hname))
  exact ⟨redirected name, eligible_eq_ok_iff.mpr
    ⟨hfound, rfl, _, hbuiltin, Declaration.isRedirected_redirected _⟩⟩

end Catalog

end BuiltinWrappers
