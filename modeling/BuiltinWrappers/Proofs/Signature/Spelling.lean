import BuiltinWrappers.Proofs.Signature.Units
import BuiltinWrappers.Proofs.Text.Joined

/-!
# Reading a type back

The words of the codes are pairwise distinct and hold no space.  So the codes of
a unit can be read back from the type that it spells, and the types of a
signature determine its longest prefix of codes.
-/

namespace BuiltinWrappers.Signature

/-! ## The characters of a type -/

def isWordCharacter (character : Char) : Bool :=
  character.isAlpha || character = '_' || character = '*'

private theorem words_all_isWordCharacter :
    (allCodes.filterMap word?).all (·.toList.all isWordCharacter) := by
  decide

theorem isWordCharacter_of_word? {code character : Char} {word : String}
    (hword : word? code = some word) (h : character ∈ word.toList) :
    isWordCharacter character := by
  have hcode : code ∈ allCodes := isCode_iff_mem.mp (by simp [isCode, hword])
  have hmem : word ∈ allCodes.filterMap word? := List.mem_filterMap.mpr ⟨code, hcode, hword⟩
  have hall := List.all_eq_true.mp words_all_isWordCharacter word hmem
  exact List.all_eq_true.mp hall character h

theorem space_not_mem_of_word? {code : Char} {word : String}
    (hword : word? code = some word) : ' ' ∉ word.toList :=
  fun h => absurd (isWordCharacter_of_word? hword h) (by decide)

theorem TypeUnit.text_toList (unit : TypeUnit) :
    unit.text.toList = [' '].intercalate (unit.words.map String.toList) := by
  simp [TypeUnit.text]

theorem TypeUnit.mem_text {unit : TypeUnit} {character : Char}
    (h : character ∈ unit.text.toList) :
    isWordCharacter character ∨ character = ' ' := by
  rw [unit.text_toList] at h
  rcases Text.mem_intercalate h with hspace | ⟨part, hpart, hcharacter⟩
  · exact .inr (List.mem_singleton.mp hspace)
  · obtain ⟨word, hword, rfl⟩ := List.mem_map.mp hpart
    obtain ⟨code, -, hcode⟩ := List.mem_filterMap.mp hword
    exact .inl (isWordCharacter_of_word? hcode hcharacter)

/-! ## The codes of a type -/

def code? (word : String) : Option Char :=
  allCodes.find? fun code => word? code = some word

private theorem codes_all_bind_code? :
    allCodes.all fun code => (word? code).bind code? = some code := by
  decide

theorem bind_code?_word? {code : Char} (h : isCode code) :
    (word? code).bind code? = some code :=
  of_decide_eq_true (List.all_eq_true.mp codes_all_bind_code? code (isCode_iff_mem.mp h))

def codesOf (type : String) : List Char :=
  (type.toList.splitOn ' ').filterMap fun word => code? (.ofList word)

/-- No word holds a space, so a type is cut at its spaces into its words. -/
theorem TypeUnit.text_splitOn {unit : TypeUnit} (hne : unit.codes ≠ []) :
    unit.text.toList.splitOn ' ' = unit.words.map String.toList := by
  have hwords : unit.words ≠ [] := by
    rw [TypeUnit.words_eq_map, ne_eq, List.map_eq_nil_iff]
    exact hne
  have hspaces : ∀ part ∈ unit.words.map String.toList, ' ' ∉ part := by
    intro part hpart
    obtain ⟨word, hword, rfl⟩ := List.mem_map.mp hpart
    obtain ⟨code, -, hcode⟩ := List.mem_filterMap.mp hword
    exact space_not_mem_of_word? hcode
  rw [unit.text_toList]
  exact List.splitOn_intercalate ' ' hspaces (by simpa using hwords)

theorem codesOf_text {unit : TypeUnit} (hne : unit.codes ≠ []) :
    codesOf unit.text = unit.codes := by
  calc
    codesOf unit.text = unit.words.filterMap code? := by
      rw [codesOf, TypeUnit.text_splitOn hne, List.filterMap_map]
      simp
    _ = unit.codes.filterMap fun code => (word? code).bind code? := by
      rw [TypeUnit.words, List.filterMap_filterMap]
    _ = unit.codes.filterMap some :=
      List.filterMap_congr fun code hcode =>
        bind_code?_word? (unit.isCode_of_mem hcode)
    _ = unit.codes := List.filterMap_some

theorem codePrefix_eq_codesOf (signature : String) :
    codePrefix signature = (types signature).flatMap codesOf := by
  obtain ⟨units, htypes, hcodes, hfilled⟩ := types_eq_units signature
  rw [hcodes, htypes, List.flatMap_map]
  exact List.flatMap_congr fun unit hunit => (codesOf_text (hfilled unit hunit)).symm

end BuiltinWrappers.Signature
