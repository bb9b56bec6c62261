import BuiltinWrappers.Text.Scan
import Mathlib.Data.List.Basic

/-!
# Joined texts

A text that is joined from parts can be cut into them again when no part holds
the character between them.  Four ways of cutting are used: at every separator,
at the first delimiter, at the last brackets, and at the last space.  Parts that
are read back one by one are read back as a list.
-/

namespace BuiltinWrappers.Text

/-! ## Cutting at every separator -/

theorem mem_intercalate {separator : List Char} {parts : List (List Char)}
    {character : Char} (h : character ∈ separator.intercalate parts) :
    character ∈ separator ∨ ∃ part ∈ parts, character ∈ part := by
  induction parts with
  | nil => simp at h
  | cons part parts ih =>
      cases parts with
      | nil => exact .inr ⟨part, by simp, by simpa using h⟩
      | cons next parts =>
          rw [List.intercalate_cons_cons, List.mem_append, List.mem_append] at h
          rcases h with (hpart | hseparator) | hrest
          · exact .inr ⟨part, by simp, hpart⟩
          · exact .inl hseparator
          · rcases ih hrest with hseparator | ⟨found, hfound, hmem⟩
            · exact .inl hseparator
            · exact .inr ⟨found, List.mem_cons_of_mem _ hfound, hmem⟩

theorem forall_mem_intercalate {accepts : Char → Bool} {separator : List Char}
    {parts : List (List Char)} (hseparator : ∀ character ∈ separator, accepts character)
    (hparts : ∀ part ∈ parts, ∀ character ∈ part, accepts character) :
    ∀ character ∈ separator.intercalate parts, accepts character := by
  intro character h
  rcases mem_intercalate h with hmem | ⟨part, hpart, hmem⟩
  · exact hseparator character hmem
  · exact hparts part hpart character hmem

theorem splitOn_intercalate_flatMap (separator : Char) {parts : List (List Char)}
    (hne : parts ≠ []) :
    ([separator].intercalate parts).splitOn separator =
      parts.flatMap (·.splitOn separator) := by
  induction parts with
  | nil => exact absurd rfl hne
  | cons part parts ih =>
      cases parts with
      | nil => simp
      | cons next parts =>
          rw [List.intercalate_cons_cons, List.append_assoc, List.singleton_append,
            List.splitOn_append_cons_self, ih (by simp)]
          simp only [List.flatMap_cons]

theorem cons_intercalate_comma {parts : List (List Char)} (hne : parts ≠ []) :
    ' ' :: [',', ' '].intercalate parts =
      [','].intercalate (parts.map (' ' :: ·)) := by
  induction parts with
  | nil => exact absurd rfl hne
  | cons part parts ih =>
      cases parts with
      | nil => simp
      | cons next parts =>
          have htail := ih (by simp)
          rw [List.map_cons, List.map_cons, List.intercalate_cons_cons,
            List.intercalate_cons_cons, ← List.map_cons, ← htail]
          simp

/-! ## Cutting at the first delimiter -/

def upTo? (delimiter : Char) (text : List Char) : Option (List Char × List Char) :=
  match text.dropWhile (· ≠ delimiter) with
  | [] => none
  | _ :: rest => some (text.takeWhile (· ≠ delimiter), rest)

@[simp] theorem upTo?_append {delimiter : Char} {run : List Char} (rest : List Char)
    (h : delimiter ∉ run) :
    upTo? delimiter (run ++ delimiter :: rest) = some (run, rest) := by
  have hrun : ∀ character ∈ run, decide (character ≠ delimiter) = true :=
    fun character hmem => decide_eq_true fun heq => h (heq ▸ hmem)
  unfold upTo?
  rw [List.dropWhile_append_of_pos hrun, List.takeWhile_append_of_pos hrun]
  simp

/-! ## Cutting at the last brackets -/

def lastBracketed? (text : List Char) : Option (List Char × List Char) := do
  let (_, text) ← upTo? ')' text.reverse
  let (between, front) ← upTo? '(' text
  return (front.reverse, between.reverse)

theorem lastBracketed?_append (front : List Char) {between rest : List Char}
    (hbetween : '(' ∉ between) (hrest : ')' ∉ rest) :
    lastBracketed? (front ++ '(' :: (between ++ ')' :: rest)) = some (front, between) := by
  have hreverse : (front ++ '(' :: (between ++ ')' :: rest)).reverse =
      rest.reverse ++ ')' :: (between.reverse ++ '(' :: front.reverse) := by
    simp
  have hend : ')' ∉ rest.reverse := by simpa using hrest
  have hstart : '(' ∉ between.reverse := by simpa using hbetween
  simp [lastBracketed?, hreverse, upTo?_append _ hend, upTo?_append _ hstart]

/-! ## Cutting at the last space -/

def declarator? (text : List Char) : Option (List Char × List Char) :=
  (text.splitOn ' ').getLast?.map fun name =>
    ([' '].intercalate (text.splitOn ' ').dropLast, name)

theorem declarator?_append (type : List Char) {name : List Char} (h : ' ' ∉ name) :
    declarator? (type ++ ' ' :: name) = some (type, name) := by
  have hpieces : (type ++ ' ' :: name).splitOn ' ' = type.splitOn ' ' ++ [name] := by
    rw [List.splitOn_append_cons_self, List.splitOn_eq_singleton h]
  rw [declarator?, hpieces, List.getLast?_concat, List.dropLast_concat,
    List.intercalate_splitOn]
  rfl

/-! ## Reading all parts -/

theorem mapM_map_eq_some {α β γ : Type} {write : α → β} {read : β → Option γ}
    {value : α → γ} {parts : List α}
    (h : ∀ part ∈ parts, read (write part) = some (value part)) :
    (parts.map write).mapM read = some (parts.map value) := by
  induction parts with
  | nil => rfl
  | cons part parts ih =>
      have hpart := h part List.mem_cons_self
      have hparts := ih fun other hmem => h other (List.mem_cons_of_mem _ hmem)
      rw [List.map_cons, List.mapM_cons, hpart, hparts]
      rfl

theorem mapM_map_eq_some_self {α β : Type} {write : α → β} {read : β → Option α}
    {parts : List α} (h : ∀ part ∈ parts, read (write part) = some part) :
    (parts.map write).mapM read = some parts :=
  (mapM_map_eq_some h).trans (congrArg some (List.map_id parts))

/-- The items of a list, all but the first behind a comma; each has a space in front. -/
def readItems? {α : Type} (read : List Char → Option α) (text : List Char) :
    Option (List α) :=
  if text.isEmpty then some [] else ((' ' :: text).splitOn ',').mapM read

theorem readItems?_intercalate {α β : Type} {write : α → List Char}
    {read : List Char → Option β} {value : α → β} {items : List α}
    (hfilled : ∀ item ∈ items, write item ≠ []) (hcommas : ∀ item ∈ items, ',' ∉ write item)
    (hread : ∀ item ∈ items, read (' ' :: write item) = some (value item)) :
    readItems? read ([',', ' '].intercalate (items.map write)) = some (items.map value) := by
  cases hitems : items with
  | nil => rfl
  | cons first rest =>
      rw [← hitems]
      have hne : items.map write ≠ [] := by simp [hitems]
      have hnonempty : ([',', ' '].intercalate (items.map write)).isEmpty = false := by
        have hfirst := hfilled first (by simp [hitems])
        rw [hitems]
        cases rest <;> simp [hfirst]
      have hpieces : ∀ piece ∈ (items.map write).map (' ' :: ·), ',' ∉ piece := by
        intro piece hpiece
        rw [List.map_map] at hpiece
        obtain ⟨item, hitem, rfl⟩ := List.mem_map.mp hpiece
        simp [hcommas item hitem]
      rw [readItems?, hnonempty, if_neg Bool.false_ne_true, cons_intercalate_comma hne,
        List.splitOn_intercalate ',' hpieces (by simpa using hne), List.map_map]
      exact mapM_map_eq_some hread

end BuiltinWrappers.Text
