import BuiltinWrappers.Text.Scan

/-!
# Runs of one class of characters

A run is cut off where a character of another class follows.  Under that
condition a text has one run at its front and one rest after it, and this is
what the scanner of runs reads.
-/

namespace BuiltinWrappers.Text

/-- A non-empty text whose characters are all of one class. -/
@[ext] structure Run (accepts : Char → Bool) where
  characters : List Char
  characters_ne_nil : characters ≠ []
  accepted : ∀ character ∈ characters, accepts character

def Run.single {accepts : Char → Bool} (character : Char) (h : accepts character) :
    Run accepts where
  characters := [character]
  characters_ne_nil := List.cons_ne_nil _ _
  accepted := List.forall_mem_singleton.mpr h

/-- No run of the class can be prolonged by the text. -/
def StopsAt (accepts : Char → Bool) (rest : List Char) : Prop :=
  ∀ character, rest.head? = some character → accepts character = false

/-- No character is of both classes. -/
def Apart (left right : Char → Bool) : Prop :=
  ∀ character, left character → right character = false

variable {accepts other : Char → Bool}

theorem Apart.symm (h : Apart accepts other) : Apart other accepts := by
  intro character hother
  cases haccepts : accepts character with
  | false => rfl
  | true =>
      rw [h character haccepts] at hother
      contradiction

theorem stopsAt_cons {character : Char} {rest : List Char} :
    StopsAt accepts (character :: rest) ↔ accepts character = false := by
  simp [StopsAt]

theorem Run.stopsAt_append (run : Run accepts) (h : Apart accepts other)
    (rest : List Char) : StopsAt other (run.characters ++ rest) := by
  obtain ⟨first, tail, hcons⟩ := List.exists_cons_of_ne_nil run.characters_ne_nil
  rw [hcons, List.cons_append, stopsAt_cons]
  exact h first (run.accepted first (by simp [hcons]))

/-! ## Reading a run -/

theorem run?_eq_some_iff {text run rest : List Char} :
    run? accepts text = some (run, rest) ↔
      ∃ front : Run accepts, front.characters = run ∧ text = front.characters ++ rest ∧
        StopsAt accepts rest := by
  constructor
  · intro h
    obtain ⟨htext, hne, hall, hstop⟩ := run?_eq_some h
    exact ⟨⟨run, hne, hall⟩, rfl, htext, hstop⟩
  · rintro ⟨front, rfl, rfl, hstop⟩
    exact run?_append front.characters_ne_nil front.accepted hstop

theorem Run.append_inj {first second : Run accepts} {rest tail : List Char}
    (h : first.characters ++ rest = second.characters ++ tail)
    (hrest : StopsAt accepts rest) (htail : StopsAt accepts tail) :
    first = second ∧ rest = tail := by
  have hfirst := run?_append first.characters_ne_nil first.accepted hrest
  have hsecond := run?_append second.characters_ne_nil second.accepted htail
  rw [h, hsecond] at hfirst
  obtain ⟨hcharacters, hrests⟩ := Prod.mk.inj (Option.some.inj hfirst)
  exact ⟨Run.ext hcharacters.symm, hrests.symm⟩

theorem Run.append_cons_inj {first second : Run accepts} {delimiter : Char}
    {rest tail : List Char} (hdelimiter : accepts delimiter = false)
    (h : first.characters ++ delimiter :: rest =
      second.characters ++ delimiter :: tail) : first = second ∧ rest = tail := by
  obtain ⟨hrun, hrest⟩ :=
    Run.append_inj h (stopsAt_cons.mpr hdelimiter) (stopsAt_cons.mpr hdelimiter)
  exact ⟨hrun, List.tail_eq_of_cons_eq hrest⟩

theorem Run.append_run_inj {first second : Run accepts} {next after : Run other}
    {rest tail : List Char} (hapart : Apart other accepts)
    (h : first.characters ++ (next.characters ++ rest) =
      second.characters ++ (after.characters ++ tail)) :
    first = second ∧ next.characters ++ rest = after.characters ++ tail :=
  Run.append_inj h (next.stopsAt_append hapart rest) (after.stopsAt_append hapart tail)

end BuiltinWrappers.Text
