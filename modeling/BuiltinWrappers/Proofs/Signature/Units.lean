import BuiltinWrappers.Builtin.Signature
import Mathlib.Data.List.Basic
import Mathlib.Data.List.TakeWhile

/-!
# The units of a signature

Reading a signature type by type cuts its longest prefix of codes into units.
No unit is empty, and each type is the words of its unit with a space between
two of them.  So a signature has a type exactly when it begins with a code.
-/

namespace BuiltinWrappers.Signature

/-! ## Codes and their words -/

def word? (code : Char) : Option String :=
  (qualifierWord? code).or ((baseWord? code).or (pointerWord? code))

def isCode (code : Char) : Bool := (word? code).isSome

def allCodes : List Char :=
  ['X', 'L', 'S', 'U', 'v', 'b', 'c', 's', 'i', 'h', 'f', 'd', 'z', 'w', '*', 'C', 'D']

/-- The longest prefix of a signature that is made of codes only. -/
def codePrefix (signature : String) : List Char :=
  signature.toList.takeWhile isCode

theorem isCode_iff {code : Char} :
    isCode code ↔ (qualifierWord? code).isSome ∨ (baseWord? code).isSome ∨
      (pointerWord? code).isSome := by
  simp [isCode, word?]

theorem isCode_iff_mem {code : Char} : isCode code ↔ code ∈ allCodes := by
  constructor
  · rw [isCode_iff]
    rintro (h | h | h)
    · revert h
      unfold qualifierWord?
      split <;> simp [allCodes]
    · revert h
      unfold baseWord?
      split <;> simp [allCodes]
    · revert h
      unfold pointerWord?
      split <;> simp [allCodes]
  · have hall : allCodes.all isCode := by decide
    exact List.all_eq_true.mp hall code

theorem word?_of_qualifier {code : Char} (h : (qualifierWord? code).isSome) :
    word? code = qualifierWord? code := by
  simp [word?, Option.or_of_isSome h]

theorem qualifierWord?_of_base {code : Char}
    (h : (baseWord? code).isSome) : qualifierWord? code = none := by
  revert h
  unfold baseWord?
  split <;> simp [qualifierWord?]

theorem qualifierWord?_of_pointer {code : Char}
    (h : (pointerWord? code).isSome) : qualifierWord? code = none := by
  revert h
  unfold pointerWord?
  split <;> simp [qualifierWord?]

theorem baseWord?_of_pointer {code : Char}
    (h : (pointerWord? code).isSome) : baseWord? code = none := by
  revert h
  unfold pointerWord?
  split <;> simp [baseWord?]

theorem word?_of_base {code : Char} (h : (baseWord? code).isSome) :
    word? code = baseWord? code := by
  simp [word?, qualifierWord?_of_base h, Option.or_of_isSome h]

theorem word?_of_pointer {code : Char} (h : (pointerWord? code).isSome) :
    word? code = pointerWord? code := by
  simp [word?, qualifierWord?_of_pointer h, baseWord?_of_pointer h]

/-! ## Units -/

/-- One type of a signature: its codes of the three phases in turn. -/
structure TypeUnit where
  qualifiers : List Char
  bases : List Char
  pointers : List Char
  qualifiers_known : ∀ code ∈ qualifiers, (qualifierWord? code).isSome
  bases_known : ∀ code ∈ bases, (baseWord? code).isSome
  pointers_known : ∀ code ∈ pointers, (pointerWord? code).isSome

namespace TypeUnit

def codes (unit : TypeUnit) : List Char :=
  unit.qualifiers ++ unit.bases ++ unit.pointers

def words (unit : TypeUnit) : List String := unit.codes.filterMap word?

def text (unit : TypeUnit) : String := " ".intercalate unit.words

/-- No phase of a unit can take one more code when `rest` comes after it. -/
def MaximalBefore (unit : TypeUnit) (rest : List Char) : Prop :=
  (∀ code ∈ (unit.bases ++ unit.pointers ++ rest).head?, qualifierWord? code = none) ∧
    (∀ code ∈ (unit.pointers ++ rest).head?, baseWord? code = none) ∧
    ∀ code ∈ rest.head?, pointerWord? code = none

theorem isCode_of_mem {unit : TypeUnit} {code : Char} (h : code ∈ unit.codes) :
    isCode code := by
  rw [isCode_iff]
  simp only [codes, List.mem_append] at h
  rcases h with (h | h) | h
  · exact .inl (unit.qualifiers_known code h)
  · exact .inr (.inl (unit.bases_known code h))
  · exact .inr (.inr (unit.pointers_known code h))

theorem words_eq (unit : TypeUnit) :
    unit.words = unit.qualifiers.filterMap qualifierWord? ++
      unit.bases.filterMap baseWord? ++ unit.pointers.filterMap pointerWord? := by
  rw [words, codes, List.filterMap_append, List.filterMap_append]
  congr 1
  · congr 1
    · exact List.filterMap_congr fun code h =>
        word?_of_qualifier (unit.qualifiers_known code h)
    · exact List.filterMap_congr fun code h =>
        word?_of_base (unit.bases_known code h)
  · exact List.filterMap_congr fun code h =>
      word?_of_pointer (unit.pointers_known code h)

theorem words_eq_map (unit : TypeUnit) :
    unit.words = unit.codes.map fun code => (word? code).getD "" := by
  rw [words, ← List.filterMap_eq_map]
  apply List.filterMap_congr
  intro code hcode
  obtain ⟨word, hword⟩ := Option.isSome_iff_exists.mp (isCode_of_mem hcode)
  simp [hword]

/-- The empty unit is maximal only where no code follows. -/
theorem isCode_head_eq_false {unit : TypeUnit} {rest : List Char}
    (hmaximal : unit.MaximalBefore rest) (hempty : unit.codes = []) :
    ∀ code ∈ rest.head?, isCode code = false := by
  intro code hcode
  obtain ⟨hqualifier, hbase, hpointer⟩ := hmaximal
  simp only [codes, List.append_eq_nil_iff] at hempty
  obtain ⟨⟨-, hbases⟩, hpointers⟩ := hempty
  simp only [hbases, hpointers, List.nil_append] at hqualifier hbase
  simp [isCode, word?, hqualifier code hcode, hbase code hcode, hpointer code hcode]

end TypeUnit

/-! ## The first unit -/

theorem takeWords_eq (known? : Char → Option String) (codes : List Char) :
    takeWords known? codes =
      ((codes.takeWhile fun code => (known? code).isSome).filterMap known?,
        codes.dropWhile fun code => (known? code).isSome) := by
  induction codes with
  | nil => rfl
  | cons code codes ih =>
      rw [takeWords]
      cases hword : known? code with
      | none => simp [hword]
      | some word => simp [hword, ih]

private theorem known?_eq_none_of_head (known? : Char → Option String)
    (codes : List Char) :
    ∀ code ∈ (codes.dropWhile fun code => (known? code).isSome).head?,
      known? code = none := by
  intro code hcode
  have hstop := List.head?_dropWhile_not (fun code => (known? code).isSome) codes
  rw [Option.mem_def.mp hcode] at hstop
  simpa using hstop

theorem takeUnit?_eq_some {codes rest : List Char} {type : String}
    (h : takeUnit? codes = some (type, rest)) :
    ∃ unit : TypeUnit, codes = unit.codes ++ rest ∧ type = unit.text ∧
      unit.MaximalBefore rest := by
  unfold takeUnit? at h
  split at h
  · simp at h
  simp only [takeWords_eq, Option.some.injEq, Prod.mk.injEq] at h
  obtain ⟨rfl, rfl⟩ := h
  set afterQualifiers := codes.dropWhile fun code => (qualifierWord? code).isSome
    with hqualifiers
  set afterBases := afterQualifiers.dropWhile fun code => (baseWord? code).isSome
    with hbases
  set rest := afterBases.dropWhile fun code => (pointerWord? code).isSome with hpointers
  let unit : TypeUnit := {
    qualifiers := codes.takeWhile fun code => (qualifierWord? code).isSome
    bases := afterQualifiers.takeWhile fun code => (baseWord? code).isSome
    pointers := afterBases.takeWhile fun code => (pointerWord? code).isSome
    qualifiers_known := fun _ => List.mem_takeWhile_imp
    bases_known := fun _ => List.mem_takeWhile_imp
    pointers_known := fun _ => List.mem_takeWhile_imp }
  have hafterBases : unit.pointers ++ rest = afterBases :=
    List.takeWhile_append_dropWhile
  have hafterQualifiers : unit.bases ++ afterBases = afterQualifiers :=
    List.takeWhile_append_dropWhile
  refine ⟨unit, ?_, ?_, ?_, ?_, ?_⟩
  · rw [TypeUnit.codes, List.append_assoc, hafterBases, List.append_assoc,
      hafterQualifiers]
    exact List.takeWhile_append_dropWhile.symm
  · rw [TypeUnit.text, TypeUnit.words_eq]
  · rw [List.append_assoc, hafterBases, hafterQualifiers]
    exact known?_eq_none_of_head qualifierWord? codes
  · rw [hafterBases]
    exact known?_eq_none_of_head baseWord? afterQualifiers
  · exact known?_eq_none_of_head pointerWord? afterBases

/-! ## All units -/

namespace TypeReader

theorem next_eq_some {reader after : TypeReader} {type : String}
    (h : reader.next = (some type, after)) :
    ∃ unit : TypeUnit, unit.codes ≠ [] ∧
      reader.remainder = unit.codes ++ after.remainder ∧ type = unit.text ∧
      unit.MaximalBefore after.remainder := by
  have hshorter := length_lt_of_next h
  unfold next at h
  split at h
  · simp at h
  next found rest hunit =>
    split at h
    · simp only [Prod.mk.injEq, Option.some.injEq] at h
      obtain ⟨rfl, rfl⟩ := h
      obtain ⟨unit, hcodes, htext, hmaximal⟩ := takeUnit?_eq_some hunit
      refine ⟨unit, ?_, hcodes, htext, hmaximal⟩
      intro hempty
      rw [hcodes, hempty] at hshorter
      exact absurd hshorter (Nat.lt_irrefl _)
    · simp at h

theorem next_eq_none {reader after : TypeReader} (h : reader.next = (none, after)) :
    after = reader ∧ ∀ code ∈ reader.remainder.head?, isCode code = false := by
  unfold next at h
  split at h
  next hunit =>
    refine ⟨(Prod.mk.inj h).2.symm, ?_⟩
    have hnil : reader.remainder = [] := by
      unfold takeUnit? at hunit
      split at hunit
      · simpa using ‹reader.remainder.isEmpty = true›
      · simp at hunit
    simp [hnil]
  next type rest hunit =>
    split at h
    · simp at h
    next hlong =>
      refine ⟨(Prod.mk.inj h).2.symm, ?_⟩
      obtain ⟨unit, hcodes, -, hmaximal⟩ := takeUnit?_eq_some hunit
      have hempty : unit.codes = [] := by
        rw [hcodes, List.length_append] at hlong
        exact List.length_eq_zero_iff.mp (by omega)
      rw [hcodes, hempty, List.nil_append]
      exact TypeUnit.isCode_head_eq_false hmaximal hempty

theorem steps_of_next_none {reader after : TypeReader} (h : reader.next = (none, after)) :
    reader.steps = [] := by
  rw [steps]
  split <;> simp_all

theorem steps_of_next_some {reader after : TypeReader} {type : String}
    (h : reader.next = (some type, after)) :
    reader.steps = (type, after) :: after.steps := by
  rw [steps]
  split
  · simp_all
  next found later hagain =>
    rw [h] at hagain
    obtain ⟨hfound, rfl⟩ := Prod.mk.inj hagain
    rw [Option.some.inj hfound]

theorem steps_eq_units (reader : TypeReader) :
    ∃ units : List TypeUnit,
      reader.steps.map Prod.fst = units.map TypeUnit.text ∧
      reader.remainder.takeWhile isCode = units.flatMap TypeUnit.codes ∧
      ∀ unit ∈ units, unit.codes ≠ [] := by
  induction reader using steps.induct with
  | case1 reader after hnext =>
      refine ⟨[], by rw [steps_of_next_none hnext]; rfl, ?_, by simp⟩
      cases hcodes : reader.remainder with
      | nil => rfl
      | cons code codes =>
          have := (next_eq_none hnext).2 code (by simp [hcodes])
          simp [this]
  | case2 reader type after hnext ih =>
      obtain ⟨units, htypes, hcodes, hfilled⟩ := ih
      obtain ⟨unit, hne, hremainder, htext, -⟩ := next_eq_some hnext
      refine ⟨unit :: units, ?_, ?_, by simpa using ⟨hne, hfilled⟩⟩
      · rw [steps_of_next_some hnext, List.map_cons, htypes, htext, List.map_cons]
      · rw [hremainder, List.takeWhile_append_of_pos fun _ => unit.isCode_of_mem, hcodes,
          List.flatMap_cons]

end TypeReader

theorem types_eq_units (signature : String) :
    ∃ units : List TypeUnit,
      types signature = units.map TypeUnit.text ∧
      codePrefix signature = units.flatMap TypeUnit.codes ∧
      ∀ unit ∈ units, unit.codes ≠ [] :=
  TypeReader.steps_eq_units ⟨signature.toList⟩

theorem types_eq_nil_iff {signature : String} :
    types signature = [] ↔ ∀ code ∈ signature.toList.head?, isCode code = false := by
  obtain ⟨units, htypes, hcodes, hfilled⟩ := types_eq_units signature
  have hboth : types signature = [] ↔ codePrefix signature = [] := by
    rw [htypes, hcodes]
    cases units with
    | nil => simp
    | cons unit units =>
        have := hfilled unit List.mem_cons_self
        simp [this]
  rw [hboth, codePrefix]
  cases signature.toList with
  | nil => simp
  | cons code codes => cases hcode : isCode code <;> simp [hcode]

end BuiltinWrappers.Signature
