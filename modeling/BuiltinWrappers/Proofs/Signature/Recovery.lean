import BuiltinWrappers.Proofs.Signature.Pieces
import BuiltinWrappers.Proofs.Signature.Spelling

/-!
# Recovering a signature

Nothing of a signature is lost when it is read.  Its types, word by word, give
its codes back, and what the reader drops is the rest.  In the other direction,
units that are written one after the other are read as these units as long as
the phase falls from each one to the next.
-/

namespace BuiltinWrappers.Signature

/-! ## From types to codes -/

def readType? (type : String) : Option (List Char) :=
  (type.toList.splitOn ' ').mapM fun word => code? (.ofList word)

def readTypes? (types : List String) (rest : List Char) : Option (List Char) :=
  (types.mapM readType?).map fun units => units.flatten ++ rest

def dropped (signature : String) : List Char :=
  (TypeReader.exhausted ⟨signature.toList⟩).remainder

theorem readType?_text {unit : TypeUnit} (hne : unit.codes ≠ []) :
    readType? unit.text = some unit.codes := by
  rw [readType?, TypeUnit.text_splitOn hne, TypeUnit.words_eq_map, List.map_map]
  refine Text.mapM_map_eq_some_self fun code hcode => ?_
  obtain ⟨word, hword⟩ := Option.isSome_iff_exists.mp (unit.isCode_of_mem hcode)
  have hback := bind_code?_word? (unit.isCode_of_mem hcode)
  rw [hword, Option.bind_some] at hback
  simp [hword, hback]

/-! ## The rest -/

theorem TypeReader.exhausted_remainder (reader : TypeReader) :
    reader.exhausted.remainder = reader.remainder.dropWhile isCode := by
  induction reader using steps.induct with
  | case1 reader after hnext =>
      rw [exhausted, steps_of_next_none hnext]
      have hhead := (next_eq_none hnext).2
      exact (Text.takeWhile_dropWhile_of_head hhead).2.symm
  | case2 reader type after hnext ih =>
      obtain ⟨unit, -, hremainder, -, -⟩ := next_eq_some hnext
      rw [exhausted, steps_of_next_some hnext, List.map_cons, List.getLastD_cons, hremainder,
        List.dropWhile_append_of_pos fun _ => unit.isCode_of_mem]
      exact ih

theorem codePrefix_append_dropped (signature : String) :
    codePrefix signature ++ dropped signature = signature.toList := by
  rw [dropped, TypeReader.exhausted_remainder]
  exact List.takeWhile_append_dropWhile

theorem readTypes?_types (signature : String) :
    readTypes? (types signature) (dropped signature) = some signature.toList := by
  obtain ⟨units, htypes, hcodes, hfilled⟩ := types_eq_units signature
  have hread : (units.map TypeUnit.text).mapM readType? = some (units.map TypeUnit.codes) :=
    Text.mapM_map_eq_some fun unit hunit => readType?_text (hfilled unit hunit)
  rw [readTypes?, htypes, hread, Option.map_some, ← List.flatMap_def, ← hcodes,
    codePrefix_append_dropped]

/-! ## From units to types -/

/-- The phase falls from the last code of a unit to the first code of the next. -/
def TypeUnit.FallsTo (unit next : TypeUnit) : Prop :=
  ∃ (hunit : unit.codes ≠ []) (hnext : next.codes ≠ []),
    phase (next.codes.head hnext) < phase (unit.codes.getLast hunit)

theorem pieces_flatMap_codes {units : List TypeUnit}
    (hfilled : ∀ unit ∈ units, unit.codes ≠ []) (hfalls : units.IsChain TypeUnit.FallsTo) :
    pieces (units.flatMap TypeUnit.codes) = units.map TypeUnit.codes := by
  rw [pieces, List.splitBy_eq_iff]
  refine ⟨List.flatMap_def, ?_, ?_, ?_⟩
  · rw [List.mem_map]
    rintro ⟨unit, hunit, hempty⟩
    exact hfilled unit hunit hempty
  · intro codes hcodes
    obtain ⟨unit, -, rfl⟩ := List.mem_map.mp hcodes
    exact unit.isChain_codes
  · rw [List.isChain_map]
    refine hfalls.imp ?_
    rintro unit next ⟨hunit, hnext, hlt⟩
    exact ⟨hunit, hnext, staysInPiece_eq_false_iff.mpr hlt⟩

theorem codePrefix_flatMap_codes (units : List TypeUnit) :
    codePrefix (.ofList (units.flatMap TypeUnit.codes)) = units.flatMap TypeUnit.codes := by
  rw [codePrefix, String.toList_ofList, List.takeWhile_eq_self_iff]
  intro code hcode
  obtain ⟨unit, -, hmem⟩ := List.mem_flatMap.mp hcode
  exact unit.isCode_of_mem hmem

/-! ## Both directions -/

/--
The types of a signature and what is dropped determine it, and units between
which the phase falls are the units of the signature that they make up.
-/
theorem signature_recovered :
    (∀ signature, readTypes? (types signature) (dropped signature) = some signature.toList) ∧
    (∀ left right, types left = types right → dropped left = dropped right → left = right) ∧
    ∀ units : List TypeUnit, (∀ unit ∈ units, unit.codes ≠ []) →
      units.IsChain TypeUnit.FallsTo →
      types (.ofList (units.flatMap TypeUnit.codes)) = units.map TypeUnit.text ∧
        dropped (.ofList (units.flatMap TypeUnit.codes)) = [] := by
  refine ⟨readTypes?_types, ?_, ?_⟩
  · intro left right htypes hdropped
    have hleft := readTypes?_types left
    rw [htypes, hdropped, readTypes?_types right] at hleft
    exact String.toList_inj.mp (Option.some.inj hleft).symm
  · intro units hfilled hfalls
    have hcodes := codePrefix_flatMap_codes units
    constructor
    · rw [types_eq_map_spelling, hcodes, pieces_flatMap_codes hfilled hfalls, List.map_map]
      rfl
    · have hall := codePrefix_append_dropped (.ofList (units.flatMap TypeUnit.codes))
      rw [hcodes, String.toList_ofList, List.append_right_eq_self] at hall
      exact hall

def sampleUnits : List TypeUnit :=
  [⟨['L'], ['d'], [], by simp [qualifierWord?], by simp [baseWord?], by simp⟩,
    ⟨['X'], ['v'], ['*', 'C'], by simp [qualifierWord?], by simp [baseWord?],
      by simp [pointerWord?]⟩,
    ⟨[], ['i'], [], by simp, by simp [baseWord?], by simp⟩]

theorem signature_recovered_sampleUnits :
    (∀ unit ∈ sampleUnits, unit.codes ≠ []) ∧ sampleUnits.IsChain TypeUnit.FallsTo ∧
      types "LdXv*Ci" = ["long double", "_Complex void * const", "int"] ∧
      dropped "LdXv*Ci" = [] := by
  have hfilled : ∀ unit ∈ sampleUnits, unit.codes ≠ [] := by
    simp [sampleUnits, TypeUnit.codes]
  have hfalls : sampleUnits.IsChain TypeUnit.FallsTo :=
    .cons_cons ⟨by decide, by decide, by decide⟩
      (.cons_cons ⟨by decide, by decide, by decide⟩ (.singleton _))
  have htext : String.ofList (sampleUnits.flatMap TypeUnit.codes) = "LdXv*Ci" := by decide
  have htypes : sampleUnits.map TypeUnit.text =
      ["long double", "_Complex void * const", "int"] := by cbv
  have hread := signature_recovered.2.2 sampleUnits hfilled hfalls
  rw [htext, htypes] at hread
  exact ⟨hfilled, hfalls, hread⟩

end BuiltinWrappers.Signature
