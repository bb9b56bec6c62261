import BuiltinWrappers.Builtin.Eligibility
import BuiltinWrappers.Settings
import Mathlib.Data.List.Basic

/-!
# C identifiers

A C identifier is a text of ASCII letters, digits and underscores that is not
empty and has no digit at its front.  The test for identifiers decides this, and
what the test accepts may be put behind another identifier.
-/

namespace BuiltinWrappers

/-! ## Characters -/

def IsLetter (character : Char) : Prop :=
  'a' ≤ character ∧ character ≤ 'z' ∨ 'A' ≤ character ∧ character ≤ 'Z'

def IsDigit (character : Char) : Prop := '0' ≤ character ∧ character ≤ '9'

theorem isAlpha_iff {character : Char} : character.isAlpha ↔ IsLetter character := by
  have hupper : character.isUpper = decide ('A' ≤ character ∧ character ≤ 'Z') := rfl
  have hlower : character.isLower = ('a' ≤ character && character ≤ 'z') := rfl
  have halpha : character.isAlpha = (character.isUpper || character.isLower) := rfl
  rw [halpha, hupper, hlower]
  simp [IsLetter, or_comm]

theorem isDigit_iff {character : Char} : character.isDigit ↔ IsDigit character := by
  simp [IsDigit, Char.isDigit, Char.le_def]

theorem isIdentifierCharacter_iff {character : Char} :
    isIdentifierCharacter character ↔
      IsLetter character ∨ IsDigit character ∨ character = '_' := by
  rw [← isAlpha_iff, ← isDigit_iff]
  simp [isIdentifierCharacter, Char.isAlphanum, or_assoc]

theorem isIdentifierCharacter_of_start {character : Char}
    (h : isIdentifierStart character) : isIdentifierCharacter character := by
  simp only [isIdentifierStart, Bool.or_eq_true] at h
  simp only [isIdentifierCharacter, Char.isAlphanum, Bool.or_eq_true]
  exact h.imp_left .inl

theorem not_isDigit_of_isIdentifierStart {character : Char}
    (h : isIdentifierStart character) : ¬IsDigit character := by
  simp only [isIdentifierStart, Bool.or_eq_true, isAlpha_iff, decide_eq_true_eq] at h
  rintro ⟨hlow, hhigh⟩
  rcases h with (⟨hletter, -⟩ | ⟨hletter, -⟩) | rfl
  · exact absurd (Char.le_trans hletter hhigh) (by decide)
  · exact absurd (Char.le_trans hletter hhigh) (by decide)
  · exact absurd hhigh (by decide)

theorem isIdentifierStart_of_not_isDigit {character : Char}
    (h : isIdentifierCharacter character) (hdigit : ¬IsDigit character) :
    isIdentifierStart character := by
  rcases isIdentifierCharacter_iff.mp h with hletter | hfound | rfl
  · simp [isIdentifierStart, isAlpha_iff.mpr hletter]
  · contradiction
  · decide

theorem not_mem_of_class {accepts : Char → Bool} {text : List Char} {delimiter : Char}
    (htext : ∀ character ∈ text, accepts character)
    (hdelimiter : accepts delimiter = false) : delimiter ∉ text := by
  intro hmem
  rw [htext delimiter hmem] at hdelimiter
  exact Bool.noConfusion hdelimiter

/-! ## Names -/

theorem isIdentifier_iff {name : String} :
    isIdentifier name ↔ ∃ first rest, name.toList = first :: rest ∧
      isIdentifierStart first ∧ ∀ character ∈ rest, isIdentifierCharacter character := by
  unfold isIdentifier
  split
  next hnil => simp [hnil]
  next first rest hcons => simp [hcons]

theorem isIdentifierCharacter_of_mem {name : String} {character : Char}
    (hname : isIdentifier name) (h : character ∈ name.toList) :
    isIdentifierCharacter character := by
  obtain ⟨first, rest, hcons, hfirst, hrest⟩ := isIdentifier_iff.mp hname
  rw [hcons] at h
  rcases List.mem_cons.mp h with rfl | hmem
  · exact isIdentifierCharacter_of_start hfirst
  · exact hrest character hmem

theorem not_mem_of_isIdentifier {name : String} {delimiter : Char}
    (hname : isIdentifier name) (hdelimiter : isIdentifierCharacter delimiter = false) :
    delimiter ∉ name.toList :=
  not_mem_of_class (fun _ => isIdentifierCharacter_of_mem hname) hdelimiter

/-- What is appended to an identifier may also begin with a digit. -/
theorem isIdentifier_append {first second : String} (hfirst : isIdentifier first)
    (hsecond : ∀ character ∈ second.toList, isIdentifierCharacter character) :
    isIdentifier (first ++ second) := by
  obtain ⟨start, rest, hcons, hstart, hrest⟩ := isIdentifier_iff.mp hfirst
  refine isIdentifier_iff.mpr ⟨start, rest ++ second.toList, ?_, hstart, ?_⟩
  · rw [String.toList_append, hcons, List.cons_append]
  · rw [List.forall_mem_append]
    exact ⟨hrest, hsecond⟩

theorem isIdentifier_builtinName {name : String} (h : isIdentifier name) :
    isIdentifier (builtinName name) :=
  isIdentifier_append (by decide) fun _ => isIdentifierCharacter_of_mem h

/-! ## The rule for identifiers -/

/-- A text of ASCII letters, digits and underscores with no digit at its front. -/
structure CIdentifier (text : String) : Prop where
  ne_empty : text ≠ ""
  characters : ∀ character ∈ text.toList,
    IsLetter character ∨ IsDigit character ∨ character = '_'
  start : ∀ first ∈ text.toList.head?, ¬IsDigit first

theorem isIdentifier_iff_cIdentifier {text : String} : isIdentifier text ↔ CIdentifier text := by
  rw [isIdentifier_iff]
  constructor
  · rintro ⟨first, rest, hcons, hfirst, hrest⟩
    refine ⟨?_, ?_, ?_⟩
    · rintro rfl
      simp at hcons
    · simp only [hcons, List.forall_mem_cons, ← isIdentifierCharacter_iff]
      exact ⟨isIdentifierCharacter_of_start hfirst, hrest⟩
    · simp only [hcons, List.head?_cons, Option.mem_def, Option.some.injEq, forall_eq']
      exact not_isDigit_of_isIdentifierStart hfirst
  · rintro ⟨hne, hcharacters, hstart⟩
    obtain ⟨first, rest, hcons⟩ :=
      List.exists_cons_of_ne_nil (mt String.toList_eq_nil_iff.mp hne)
    simp only [hcons, List.forall_mem_cons, ← isIdentifierCharacter_iff] at hcharacters
    refine ⟨first, rest, hcons, ?_, hcharacters.2⟩
    exact isIdentifierStart_of_not_isDigit hcharacters.1 (hstart first (by simp [hcons]))

end BuiltinWrappers
