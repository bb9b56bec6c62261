import BuiltinWrappers.Proofs.Catalog.Registration
import BuiltinWrappers.Proofs.Declaration.Grammar

/-!
# Texts in parts and the ends of their lines

No part of a declaration holds a carriage return, so one at the end of a line is
text behind the declaration, wherever it comes from.  A text therefore declares
what its pieces between line feeds declare, one piece after the other, in both
styles of line endings.
-/

namespace BuiltinWrappers

/-! ## A carriage return behind a line -/

namespace Declaration

theorem exists_tail_of_carriageReturn {front tail line : List Char}
    (hfront : front.getLast? = some ')') (h : line ++ ['\r'] = front ++ tail) :
    ∃ rest, line = front ++ rest := by
  rcases List.eq_nil_or_concat tail with rfl | ⟨rest, last, rfl⟩
  · rw [List.append_nil] at h
    rw [← h] at hfront
    simp at hfront
  · rw [List.concat_eq_append, ← List.append_assoc] at h
    exact ⟨rest, (List.append_inj' h rfl).1⟩

theorem read?_append_carriageReturn {α : Type} {read? : List Char → Option Declaration}
    {text : α → List Char} {declarationOf : α → Declaration}
    (hread : ∀ line declaration, read? line = some declaration ↔
      ∃ parts tail, line = text parts ++ tail ∧ declaration = declarationOf parts)
    (hlast : ∀ parts, (text parts).getLast? = some ')') (line : List Char) :
    read? (line ++ ['\r']) = read? line := by
  apply Option.ext
  intro declaration
  rw [hread, hread]
  constructor
  · rintro ⟨parts, tail, hline, rfl⟩
    obtain ⟨rest, rfl⟩ := exists_tail_of_carriageReturn (hlast parts) hline
    exact ⟨parts, rest, rfl, rfl⟩
  · rintro ⟨parts, tail, rfl, rfl⟩
    exact ⟨parts, tail ++ ['\r'], List.append_assoc .., rfl⟩

theorem parseLibrary?_append_carriageReturn (line : List Char) :
    parseLibrary? (line ++ ['\r']) = parseLibrary? line :=
  read?_append_carriageReturn (fun _ _ => parseLibrary?_eq_some_iff)
    (fun parts => by simp [LibraryParts.text]) line

theorem parsePlain?_append_carriageReturn (line : List Char) :
    parsePlain? (line ++ ['\r']) = parsePlain? line :=
  read?_append_carriageReturn (fun _ _ => parsePlain?_eq_some_iff)
    (fun parts => by simp [CommonParts.plainText]) line

theorem parse?_append_carriageReturn (line : List Char) :
    parse? (line ++ ['\r']) = parse? line := by
  rw [parse?_eq_or, parse?_eq_or, parseLibrary?_append_carriageReturn,
    parsePlain?_append_carriageReturn]

theorem parse?_dropCarriageReturn (line : List Char) :
    parse? (Text.dropCarriageReturn line) = parse? line := by
  unfold Text.dropCarriageReturn
  split
  next hlast =>
    obtain ⟨front, rfl⟩ := List.getLast?_eq_some_iff.mp hlast
    rw [List.dropLast_concat, parse?_append_carriageReturn]
  · rfl

end Declaration

namespace Catalog

open Declaration (parse?)

/-! ## The pieces between line feeds -/

theorem filterMap_finishedLines (pieces : List (List Char)) :
    (Text.finishedLines pieces).filterMap parse? = pieces.filterMap parse? := by
  fun_induction Text.finishedLines pieces with
  | case1 => rfl
  | case2 last hempty =>
      obtain rfl := List.isEmpty_iff.mp hempty
      rfl
  | case3 last _ => rfl
  | case4 piece next pieces ih =>
      simp only [List.filterMap_cons, Declaration.parse?_dropCarriageReturn] at ih ⊢
      rw [ih]

theorem declarationsOf_eq (text : List Char) :
    declarationsOf text = (text.splitOn '\n').filterMap parse? :=
  filterMap_finishedLines _

theorem declarationsOf_append_lineFeed (first second : List Char) :
    declarationsOf (first ++ '\n' :: second) = declarationsOf first ++ declarationsOf second := by
  simp only [declarationsOf_eq, List.splitOn_append_cons_self, List.filterMap_append]

theorem declarationsOf_line {line : List Char} (h : '\n' ∉ line) :
    declarationsOf line = (parse? line).toList := by
  rw [declarationsOf_eq, List.splitOn_eq_singleton h]
  cases hparse : parse? line with
  | none => simp [hparse]
  | some declaration => simp [hparse]

theorem declarationsOf_lineFeed (text : List Char) :
    declarationsOf (text ++ ['\n']) = declarationsOf text := by
  rw [declarationsOf_append_lineFeed]
  exact List.append_nil _

/-! ## The other style of line endings -/

def withCarriageReturns (text : List Char) : List Char :=
  text.flatMap fun character => if character = '\n' then ['\r', '\n'] else [character]

theorem declarationsOf_append_withCarriageReturns (text : List Char) {front : List Char}
    (hfront : '\n' ∉ front) :
    declarationsOf (front ++ withCarriageReturns text) = declarationsOf (front ++ text) := by
  induction text generalizing front with
  | nil => rfl
  | cons character text ih =>
      by_cases hfeed : character = '\n'
      · subst hfeed
        have hrest : declarationsOf (withCarriageReturns text) = declarationsOf text :=
          @ih [] List.not_mem_nil
        have hline : declarationsOf (front ++ ['\r']) = declarationsOf front := by
          rw [declarationsOf_line hfront, declarationsOf_line (by simpa using hfront),
            Declaration.parse?_append_carriageReturn]
        have hcut : front ++ withCarriageReturns ('\n' :: text) =
            (front ++ ['\r']) ++ '\n' :: withCarriageReturns text := by
          simp [withCarriageReturns]
        rw [hcut, declarationsOf_append_lineFeed, declarationsOf_append_lineFeed, hline, hrest]
      · have hlonger : '\n' ∉ front ++ [character] := by
          simpa [hfront] using Ne.symm hfeed
        simpa [withCarriageReturns, hfeed] using ih hlonger

theorem declarationsOf_withCarriageReturns (text : List Char) :
    declarationsOf (withCarriageReturns text) = declarationsOf text :=
  declarationsOf_append_withCarriageReturns text List.not_mem_nil

/-! ## Look-ups -/

theorem find?_ofDeclarations_append (first second : List Declaration) (name : String) :
    (ofDeclarations (first ++ second)).find? name =
      ((ofDeclarations second).find? name).or ((ofDeclarations first).find? name) := by
  simp only [find?_ofDeclarations, List.reverse_append, List.find?_append]

/--
Of two texts on lines of their own the second one counts where both declare a
name, and nothing else is declared.  Neither the style of the line endings nor a
last line feed makes a difference, as no line is read otherwise for a carriage
return behind it.
-/
theorem ofText_joins_and_ignores_endings :
    (∀ (first second : List Char) (name : String),
      (ofText (first ++ '\n' :: second)).find? name =
        ((ofText second).find? name).or ((ofText first).find? name)) ∧
    (∀ (first second : List Char) (name : String),
      name ∈ (ofText (first ++ '\n' :: second)).toList.map Declaration.name ↔
        name ∈ (ofText first).toList.map Declaration.name ∨
          name ∈ (ofText second).toList.map Declaration.name) ∧
    (∀ text : List Char, ofText (withCarriageReturns text) = ofText text ∧
      ofText (text ++ ['\n']) = ofText text) ∧
    ∀ line : List Char, parse? (line ++ ['\r']) = parse? line := by
  have hfind (first second : List Char) (name : String) :
      (ofText (first ++ '\n' :: second)).find? name =
        ((ofText second).find? name).or ((ofText first).find? name) := by
    simp only [ofText, declarationsOf_append_lineFeed, find?_ofDeclarations_append]
  refine ⟨hfind, ?_, ?_, Declaration.parse?_append_carriageReturn⟩
  · intro first second name
    simp only [mem_names_iff, hfind, Option.isSome_or, Bool.or_eq_true]
    exact or_comm
  · intro text
    simp only [ofText, declarationsOf_withCarriageReturns, declarationsOf_lineFeed, and_self]

end Catalog

end BuiltinWrappers
