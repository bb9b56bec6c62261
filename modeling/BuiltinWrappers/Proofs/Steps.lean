/-!
# Steps that may fail

A computation of several steps succeeds if every step does, and fails with the
fault of the first step that fails.
-/

namespace BuiltinWrappers

variable {ε α β : Type} {outcome : Except ε α} {next : α → Except ε β} {fault : ε}

theorem bind_eq_ok_iff {result : β} :
    outcome >>= next = .ok result ↔
      ∃ value, outcome = .ok value ∧ next value = .ok result := by
  cases outcome with
  | error fault => simp [bind, Except.bind]
  | ok value => simp [bind, Except.bind]

theorem bind_eq_error_iff :
    outcome >>= next = .error fault ↔
      outcome = .error fault ∨ ∃ value, outcome = .ok value ∧ next value = .error fault := by
  cases outcome with
  | error fault => simp [bind, Except.bind]
  | ok value => simp [bind, Except.bind]

theorem pure_eq_ok_iff {value result : α} :
    (pure value : Except ε α) = .ok result ↔ value = result := by
  simp [pure, Except.pure]

theorem pure_ne_error {value : α} : (pure value : Except ε α) ≠ .error fault := by
  simp [pure, Except.pure]

theorem exists_of_foldlM_eq_ok {step : α → β → Except ε α} {items : List β} {start result : α}
    (h : items.foldlM step start = .ok result) :
    ∀ item ∈ items, ∃ state next, step state item = .ok next := by
  induction items generalizing start with
  | nil => simp
  | cons item items ih =>
      rw [List.foldlM_cons] at h
      obtain ⟨next, hnext, hrest⟩ := bind_eq_ok_iff.mp h
      rw [List.forall_mem_cons]
      exact ⟨⟨start, next, hnext⟩, ih hrest⟩

end BuiltinWrappers
