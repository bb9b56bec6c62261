import BuiltinWrappers.Proofs.Signature.Units
import Mathlib.Data.List.SplitBy

/-!
# Where a signature is cut

Each code has a phase.  The longest prefix of codes is cut exactly where the
phase falls from one code to the next, and each piece spells one type.  A call
of the reader takes one piece off the front of what is left, so any number of
calls is described by the pieces alone.
-/

namespace BuiltinWrappers.Signature

/-! ## Phases -/

def phase (code : Char) : Nat :=
  if (qualifierWord? code).isSome then 0
  else if (baseWord? code).isSome then 1
  else 2

def staysInPiece (code next : Char) : Bool := phase code ≤ phase next

def pieces (codes : List Char) : List (List Char) := codes.splitBy staysInPiece

def falls (codes : List Char) : Nat :=
  (codes.zip codes.tail).countP fun (code, next) => phase next < phase code

def spelling (piece : List Char) : String := " ".intercalate (piece.filterMap word?)

theorem phase_of_qualifier {code : Char} (h : (qualifierWord? code).isSome) :
    phase code = 0 := by
  simp [phase, h]

theorem phase_of_base {code : Char} (h : (baseWord? code).isSome) : phase code = 1 := by
  simp [phase, h, qualifierWord?_of_base h]

theorem phase_of_pointer {code : Char} (h : (pointerWord? code).isSome) :
    phase code = 2 := by
  simp [phase, qualifierWord?_of_pointer h, baseWord?_of_pointer h]

theorem staysInPiece_eq_false_iff {code next : Char} :
    staysInPiece code next = false ↔ phase next < phase code := by
  simp [staysInPiece]

/-! ## The number of pieces -/

private theorem length_splitBy_loop (codes : List Char) (code : Char) (piece : List Char)
    (done : List (List Char)) :
    (List.splitBy.loop staysInPiece codes code piece done).length =
      done.length + 1 + falls (code :: codes) := by
  -- The current piece grows with each code, but only a fall makes one piece more.
  induction codes generalizing code piece done with
  | nil => simp [List.splitBy.loop, falls]
  | cons next codes ih =>
      have hfalls : falls (code :: next :: codes) =
          falls (next :: codes) + if phase next < phase code then 1 else 0 := by
        simp [falls, List.countP_cons]
      rw [List.splitBy.loop, hfalls]
      cases hstays : staysInPiece code next with
      | true =>
          have : ¬phase next < phase code := by
            simpa [staysInPiece] using hstays
          simp [ih, this]
      | false =>
          rw [staysInPiece_eq_false_iff] at hstays
          simp [ih, hstays]
          omega

theorem length_pieces (codes : List Char) :
    (pieces codes).length = if codes = [] then 0 else falls codes + 1 := by
  cases codes with
  | nil => rfl
  | cons code codes =>
      rw [pieces, List.splitBy, length_splitBy_loop]
      simp
      omega

theorem length_pieces_le (codes : List Char) : (pieces codes).length ≤ codes.length := by
  have hzip : falls codes ≤ (codes.zip codes.tail).length := List.countP_le_length
  rw [length_pieces]
  cases codes with
  | nil => simp
  | cons code codes =>
      simp only [List.length_zip, List.tail_cons, List.length_cons] at hzip
      simp
      omega

/-! ## Units are pieces -/

private theorem pairwise_of_phase {codes : List Char} {rank : Nat}
    (h : ∀ code ∈ codes, phase code = rank) :
    codes.Pairwise fun code next => phase code ≤ phase next := by
  refine List.pairwise_of_forall_mem_list ?_
  intro code hcode next hnext
  rw [h code hcode, h next hnext]

namespace TypeUnit

theorem text_eq_spelling (unit : TypeUnit) : unit.text = spelling unit.codes := rfl

theorem phase_of_mem_qualifiers {unit : TypeUnit} {code : Char}
    (h : code ∈ unit.qualifiers) : phase code = 0 :=
  phase_of_qualifier (unit.qualifiers_known code h)

theorem phase_of_mem_bases {unit : TypeUnit} {code : Char} (h : code ∈ unit.bases) :
    phase code = 1 :=
  phase_of_base (unit.bases_known code h)

theorem phase_of_mem_pointers {unit : TypeUnit} {code : Char}
    (h : code ∈ unit.pointers) : phase code = 2 :=
  phase_of_pointer (unit.pointers_known code h)

theorem isChain_codes (unit : TypeUnit) :
    unit.codes.IsChain fun code next => staysInPiece code next := by
  refine List.Pairwise.isChain ?_
  simp only [codes, List.pairwise_append, List.mem_append, staysInPiece, decide_eq_true_eq]
  refine ⟨⟨pairwise_of_phase fun _ => phase_of_mem_qualifiers,
    pairwise_of_phase fun _ => phase_of_mem_bases, ?_⟩,
    pairwise_of_phase fun _ => phase_of_mem_pointers, ?_⟩
  · intro code hcode next hnext
    rw [phase_of_mem_qualifiers hcode]
    exact Nat.zero_le _
  · rintro code (hcode | hcode) next hnext
    · rw [phase_of_mem_qualifiers hcode]
      exact Nat.zero_le _
    · rw [phase_of_mem_bases hcode, phase_of_mem_pointers hnext]
      decide

theorem phase_lt_of_maximalBefore {unit : TypeUnit} {rest : List Char} {last next : Char}
    (hmaximal : unit.MaximalBefore rest) (hlast : last ∈ unit.codes.getLast?)
    (hnext : next ∈ rest.head?) (hcode : isCode next) : phase next < phase last := by
  obtain ⟨hqualifier, hbase, hpointer⟩ := hmaximal
  -- The unit stopped before a code that its phase knows, so it had gone on to a later phase.
  rcases isCode_iff.mp hcode with hknown | hknown | hknown
  · have hfilled : unit.bases ++ unit.pointers ≠ [] := by
      intro hempty
      rw [hempty, List.nil_append] at hqualifier
      simp [hqualifier next hnext] at hknown
    rw [codes, List.append_assoc, List.getLast?_append_of_ne_nil _ hfilled] at hlast
    rw [phase_of_qualifier hknown]
    rcases List.mem_append.mp (List.mem_of_getLast? hlast) with hmem | hmem
    · simp [phase_of_mem_bases hmem]
    · simp [phase_of_mem_pointers hmem]
  · have hfilled : unit.pointers ≠ [] := by
      intro hempty
      rw [hempty, List.nil_append] at hbase
      simp [hbase next hnext] at hknown
    rw [codes, List.getLast?_append_of_ne_nil _ hfilled] at hlast
    rw [phase_of_base hknown, phase_of_mem_pointers (List.mem_of_getLast? hlast)]
    decide
  · simp [hpointer next hnext] at hknown

theorem pieces_append {unit : TypeUnit} {rest : List Char} (hne : unit.codes ≠ [])
    (hmaximal : unit.MaximalBefore rest) :
    pieces (unit.codes ++ rest.takeWhile isCode) =
      unit.codes :: pieces (rest.takeWhile isCode) := by
  have hcut : ∀ last ∈ unit.codes.getLast?, ∀ next ∈ (rest.takeWhile isCode).head?,
      staysInPiece last next = false := by
    intro last hlast next hnext
    cases rest with
    | nil => simp at hnext
    | cons code rest =>
        cases hcode : isCode code with
        | false => simp [hcode] at hnext
        | true =>
            obtain rfl : code = next := by simpa [hcode] using hnext
            rw [staysInPiece_eq_false_iff]
            exact phase_lt_of_maximalBefore hmaximal hlast (by simp) hcode
  rw [pieces, List.splitBy_append hcut, List.splitBy_of_isChain hne unit.isChain_codes]
  rfl

end TypeUnit

/-! ## Call by call -/

namespace TypeReader

def pieces (reader : TypeReader) : List (List Char) :=
  Signature.pieces (reader.remainder.takeWhile isCode)

def afterCalls (reader : TypeReader) (calls : Nat) : TypeReader :=
  (fun reader => reader.next.2)^[calls] reader

theorem next_cases (reader : TypeReader) :
    reader.pieces = [] ∧ reader.next = (none, reader) ∨
    ∃ piece after, reader.pieces = piece :: after.pieces ∧
      reader.remainder = piece ++ after.remainder ∧
      reader.next = (some (spelling piece), after) := by
  rcases hnext : reader.next with ⟨found, after⟩
  cases found with
  | none =>
      obtain ⟨rfl, hhead⟩ := next_eq_none hnext
      refine .inl ⟨?_, rfl⟩
      rw [pieces]
      cases hcodes : after.remainder with
      | nil => rfl
      | cons code codes =>
          rw [List.takeWhile_cons_of_neg (by simp [hhead code (by simp [hcodes])])]
          rfl
  | some type =>
      obtain ⟨unit, hne, hremainder, rfl, hmaximal⟩ := next_eq_some hnext
      refine .inr ⟨unit.codes, after, ?_, hremainder, by rw [unit.text_eq_spelling]⟩
      rw [pieces, hremainder, List.takeWhile_append_of_pos fun _ => unit.isCode_of_mem]
      exact unit.pieces_append hne hmaximal

theorem next_fst (reader : TypeReader) :
    reader.next.1 = reader.pieces.head?.map spelling := by
  rcases reader.next_cases with ⟨hpieces, hnext⟩ | ⟨piece, after, hpieces, -, hnext⟩
  · rw [hpieces, hnext]
    rfl
  · rw [hpieces, hnext]
    rfl

theorem afterCalls_succ (reader : TypeReader) (calls : Nat) :
    reader.afterCalls (calls + 1) = reader.next.2.afterCalls calls := rfl

theorem pieces_afterCalls (reader : TypeReader) (calls : Nat) :
    (reader.afterCalls calls).pieces = reader.pieces.drop calls := by
  induction calls generalizing reader with
  | zero => rfl
  | succ calls ih =>
      rw [afterCalls_succ, ih]
      rcases reader.next_cases with ⟨hpieces, hnext⟩ | ⟨piece, after, hpieces, -, hnext⟩
      · rw [hnext, hpieces, List.drop_nil, List.drop_nil]
      · rw [hnext, hpieces, List.drop_succ_cons]

theorem remainder_eq_append (reader : TypeReader) (calls : Nat) :
    reader.remainder =
      (reader.pieces.take calls).flatten ++ (reader.afterCalls calls).remainder := by
  induction calls generalizing reader with
  | zero => rfl
  | succ calls ih =>
      rw [afterCalls_succ]
      rcases reader.next_cases with ⟨hpieces, hnext⟩ | ⟨piece, after, hpieces, hremainder, hnext⟩
      · have hrest := ih reader
        rw [hpieces, List.take_nil] at hrest
        rw [hnext, hpieces, List.take_nil]
        exact hrest
      · rw [hnext, hpieces, List.take_succ_cons, List.flatten_cons, List.append_assoc, ← ih,
          hremainder]

theorem next_afterCalls_fst (reader : TypeReader) (calls : Nat) :
    (reader.afterCalls calls).next.1 = reader.pieces[calls]?.map spelling := by
  rw [next_fst, pieces_afterCalls, List.head?_drop]

theorem steps_map_fst (reader : TypeReader) :
    reader.steps.map Prod.fst = reader.pieces.map spelling := by
  induction reader using steps.induct with
  | case1 reader after hnext =>
      rcases reader.next_cases with ⟨hpieces, -⟩ | ⟨piece, rest, -, -, hsome⟩
      · rw [steps_of_next_none hnext, hpieces]
        rfl
      · simp [hnext] at hsome
  | case2 reader type after hnext ih =>
      rcases reader.next_cases with ⟨-, hnone⟩ | ⟨piece, rest, hpieces, -, hsome⟩
      · simp [hnext] at hnone
      · obtain ⟨htype, rfl⟩ := Prod.mk.inj (hnext.symm.trans hsome)
        rw [steps_of_next_some hnext, List.map_cons, ih, hpieces, List.map_cons,
          Option.some.inj htype]

/--
Once no piece is left, a call changes nothing.  What is left of the signature
tells this by itself, so a reader need not remember that it came to the end.
-/
theorem next_of_pieces_eq_nil {reader : TypeReader} (h : reader.pieces = []) :
    reader.next = (none, reader) := by
  rcases reader.next_cases with ⟨-, hnext⟩ | ⟨piece, after, hpieces, -, -⟩
  · exact hnext
  · simp [hpieces] at h

theorem remainder_of_pieces_eq_nil (reader : TypeReader) {calls : Nat}
    (h : reader.pieces.length ≤ calls) :
    (reader.afterCalls calls).remainder = reader.remainder.dropWhile isCode := by
  have hsplit := reader.remainder_eq_append calls
  rw [List.take_of_length_le h, pieces, Signature.pieces, List.flatten_splitBy] at hsplit
  have hall := List.takeWhile_append_dropWhile (p := isCode) (l := reader.remainder)
  exact List.append_cancel_left (hsplit.symm.trans hall.symm)

end TypeReader

/-! ## The whole signature -/

theorem types_eq_map_spelling (signature : String) :
    types signature = (pieces (codePrefix signature)).map spelling :=
  TypeReader.steps_map_fst ⟨signature.toList⟩

/--
The types of a signature are the pieces of its codes, one by one, however often
the reader is called.
-/
theorem types_eq_pieces (signature : String) :
    types signature = (pieces (codePrefix signature)).map spelling ∧
    (types signature).length =
      (if codePrefix signature = [] then 0 else falls (codePrefix signature) + 1) ∧
    (types signature).length ≤ (codePrefix signature).length ∧
    (∀ calls, ((TypeReader.mk signature.toList).afterCalls calls).next.1 =
      (types signature)[calls]?) ∧
    (∀ calls, signature.toList =
      ((pieces (codePrefix signature)).take (min calls (types signature).length)).flatten ++
        ((TypeReader.mk signature.toList).afterCalls calls).remainder) ∧
    ∀ calls, ((TypeReader.mk signature.toList).afterCalls calls).next.1 = none →
      ∀ later ≥ calls, ((TypeReader.mk signature.toList).afterCalls later).next =
        (none, ⟨signature.toList.dropWhile isCode⟩) := by
  set reader := TypeReader.mk signature.toList
  have hpieces : reader.pieces = pieces (codePrefix signature) := rfl
  have htypes := types_eq_map_spelling signature
  have hlength : (types signature).length = (pieces (codePrefix signature)).length := by
    rw [htypes, List.length_map]
  refine ⟨htypes, ?_, ?_, ?_, ?_, ?_⟩
  · rw [hlength, length_pieces]
  · rw [hlength]
    exact length_pieces_le _
  · intro calls
    rw [reader.next_afterCalls_fst, hpieces, htypes, List.getElem?_map]
  · intro calls
    rw [hlength, ← List.take_eq_take_min, ← hpieces]
    exact reader.remainder_eq_append calls
  · intro calls hnone later hlater
    have hdone : reader.pieces.length ≤ later := by
      rw [reader.next_afterCalls_fst, Option.map_eq_none_iff, List.getElem?_eq_none_iff] at hnone
      exact hnone.trans hlater
    have hempty : (reader.afterCalls later).pieces = [] := by
      rw [reader.pieces_afterCalls, List.drop_eq_nil_iff]
      exact hdone
    rw [TypeReader.next_of_pieces_eq_nil hempty, ← reader.remainder_of_pieces_eq_nil hdone]

example : pieces "LLdXv*Ci".toList = [['L', 'L', 'd'], ['X', 'v', '*', 'C'], ['i']] := by
  decide

end BuiltinWrappers.Signature
