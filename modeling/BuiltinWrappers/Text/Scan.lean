/-!
# Scanning text

The two steps from which records are read: a literal that must stand at the
front, and the longest non-empty run of characters of one class.  Each returns
what follows, so steps chain in `Option`.
-/

namespace BuiltinWrappers.Text

def literal? : (expected text : List Char) → Option (List Char)
  | [], text => some text
  | _ :: _, [] => none
  | wanted :: expected, character :: text =>
      if wanted = character then literal? expected text else none

def run? (accepts : Char → Bool) (text : List Char) :
    Option (List Char × List Char) :=
  match text.takeWhile accepts with
  | [] => none
  | first :: run => some (first :: run, text.dropWhile accepts)

theorem literal?_eq_some_iff {expected text rest : List Char} :
    literal? expected text = some rest ↔ text = expected ++ rest := by
  induction expected generalizing text with
  | nil => simp [literal?]
  | cons wanted expected ih =>
      cases text with
      | nil => simp [literal?]
      | cons character text =>
          by_cases heq : wanted = character
          · subst heq
            simp [literal?, ih]
          · simp only [literal?, if_neg heq, List.cons_append, List.cons.injEq]
            exact ⟨nofun, fun h => absurd h.1.symm heq⟩

@[simp] theorem literal?_append (expected rest : List Char) :
    literal? expected (expected ++ rest) = some rest :=
  literal?_eq_some_iff.mpr rfl

theorem run?_eq_some {accepts : Char → Bool} {text run rest : List Char}
    (h : run? accepts text = some (run, rest)) :
    text = run ++ rest ∧ run ≠ [] ∧ (∀ character ∈ run, accepts character) ∧
      ∀ character, rest.head? = some character → accepts character = false := by
  have hsplit := List.takeWhile_append_dropWhile (p := accepts) (l := text)
  unfold run? at h
  split at h
  · simp at h
  next first tail htake =>
    simp only [Option.some.injEq, Prod.mk.injEq] at h
    obtain ⟨rfl, rfl⟩ := h
    refine ⟨by rw [← htake, hsplit], by simp, ?_, ?_⟩
    · rw [← htake]
      exact List.all_eq_true.mp List.all_takeWhile
    · intro character hhead
      have := List.head?_dropWhile_not accepts text
      rw [hhead] at this
      simpa using this

theorem takeWhile_dropWhile_of_head {accepts : Char → Bool} {rest : List Char}
    (hrest : ∀ character, rest.head? = some character →
      accepts character = false) :
    rest.takeWhile accepts = [] ∧ rest.dropWhile accepts = rest := by
  cases rest with
  | nil => simp
  | cons character rest => simp [hrest character rfl]

theorem run?_append {accepts : Char → Bool} {run rest : List Char}
    (hne : run ≠ []) (hrun : ∀ character ∈ run, accepts character)
    (hrest : ∀ character, rest.head? = some character →
      accepts character = false) :
    run? accepts (run ++ rest) = some (run, rest) := by
  have htail := takeWhile_dropWhile_of_head hrest
  have htake : (run ++ rest).takeWhile accepts = run := by
    rw [List.takeWhile_append_of_pos hrun, htail.1, List.append_nil]
  have hdrop : (run ++ rest).dropWhile accepts = rest := by
    rw [List.dropWhile_append_of_pos hrun, htail.2]
  unfold run?
  rw [htake, hdrop]
  cases run with
  | nil => exact absurd rfl hne
  | cons first run => rfl

end BuiltinWrappers.Text
