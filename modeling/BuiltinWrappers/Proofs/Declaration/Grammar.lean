import BuiltinWrappers.Builtin.Declaration
import BuiltinWrappers.Proofs.Text.Run

/-!
# The grammar of declarations

A declaration is a marker and its parts between fixed delimiters, with any text
after the closing parenthesis.  No class of characters holds the character that
comes after a run of it.  So a line has at most one cut into the parts of a
form, and the readers accept exactly the lines that have one.  A line never has
both forms, so the marker test in front of the readers hides nothing.
-/

namespace BuiltinWrappers.Declaration

open Text

/-! ## The parts of a line -/

/-- The parts of both forms: a name, a signature and attributes, with gaps between. -/
@[ext] structure CommonParts where
  name : Run isWord
  afterName : Run isGapCharacter
  signature : Run isSignatureCharacter
  afterSignature : Run isGapCharacter
  attributes : Run isAttributeCharacter

/-- The parts of the library form, which go on with a header and languages. -/
@[ext] structure LibraryParts where
  common : CommonParts
  afterAttributes : Run isGapCharacter
  header : Run isHeaderCharacter
  afterHeader : Run isGapCharacter
  languages : Run isWord

namespace CommonParts

def text (parts : CommonParts) : List Char :=
  ['('] ++ parts.name.characters ++ parts.afterName.characters ++
    ['"'] ++ parts.signature.characters ++ ['"'] ++ parts.afterSignature.characters ++
    ['"'] ++ parts.attributes.characters ++ ['"']

def plainText (parts : CommonParts) : List Char :=
  plainMarker ++ parts.text ++ [')']

theorem text_append (parts : CommonParts) (rest : List Char) :
    parts.text ++ rest =
      '(' :: (parts.name.characters ++ (parts.afterName.characters ++
        '"' :: (parts.signature.characters ++ '"' :: (parts.afterSignature.characters ++
          '"' :: (parts.attributes.characters ++ '"' :: rest))))) := by
  simp [text]

theorem plainText_append (parts : CommonParts) (tail : List Char) :
    parts.plainText ++ tail = plainMarker ++ (parts.text ++ ')' :: tail) := by
  simp [plainText]

def declaration (parts : CommonParts) : Declaration where
  name := .ofList parts.name.characters
  signature := .ofList parts.signature.characters
  attributes := .ofList parts.attributes.characters

end CommonParts

namespace LibraryParts

def text (parts : LibraryParts) : List Char :=
  libraryMarker ++ parts.common.text ++ parts.afterAttributes.characters ++
    parts.header.characters ++ parts.afterHeader.characters ++
    parts.languages.characters ++ [')']

theorem text_append (parts : LibraryParts) (tail : List Char) :
    parts.text ++ tail =
      libraryMarker ++ (parts.common.text ++ (parts.afterAttributes.characters ++
        (parts.header.characters ++ (parts.afterHeader.characters ++
          (parts.languages.characters ++ ')' :: tail))))) := by
  simp [text]

def declaration (parts : LibraryParts) : Declaration :=
  { parts.common.declaration with
    kind := .library (.ofList parts.header.characters) (.ofList parts.languages.characters) }

end LibraryParts

/-! ## Classes and delimiters

Each class is apart from the one that comes next in a line, or lacks the
delimiter that does.  Nothing else about the classes is used below.
-/

theorem apart_gap_word : Apart isGapCharacter isWord := by
  intro character h
  simp only [isGapCharacter, Bool.or_eq_true, decide_eq_true_eq] at h
  rcases h with rfl | rfl <;> exact isWord_eq_false_of_mem (by decide)

theorem apart_gap_header : Apart isGapCharacter isHeaderCharacter := by
  intro character h
  have hword := apart_gap_word character h
  simp only [isGapCharacter, Bool.or_eq_true, decide_eq_true_eq] at h
  rcases h with rfl | rfl <;> simp [isHeaderCharacter, hword]

private theorem isWord_quote : isWord '"' = false :=
  isWord_eq_false_of_mem (by decide)

theorem isSignatureCharacter_quote : isSignatureCharacter '"' = false := by
  simp [isSignatureCharacter, isWord_quote]

theorem isAttributeCharacter_quote : isAttributeCharacter '"' = false := by
  simp [isAttributeCharacter, isWord_quote]

theorem isWord_closing : isWord ')' = false :=
  isWord_eq_false_of_mem (by decide)

/-! ## One cut at most -/

theorem CommonParts.text_append_inj {first second : CommonParts} {rest tail : List Char}
    (h : first.text ++ rest = second.text ++ tail) : first = second ∧ rest = tail := by
  rw [first.text_append, second.text_append, List.cons_inj_right] at h
  obtain ⟨hname, h⟩ := Run.append_run_inj apart_gap_word h
  obtain ⟨hafterName, h⟩ := Run.append_cons_inj rfl h
  obtain ⟨hsignature, h⟩ := Run.append_cons_inj isSignatureCharacter_quote h
  obtain ⟨hafterSignature, h⟩ := Run.append_cons_inj rfl h
  obtain ⟨hattributes, hrest⟩ := Run.append_cons_inj isAttributeCharacter_quote h
  exact ⟨CommonParts.ext hname hafterName hsignature hafterSignature hattributes, hrest⟩

theorem CommonParts.plainText_append_inj {first second : CommonParts}
    {rest tail : List Char} (h : first.plainText ++ rest = second.plainText ++ tail) :
    first = second ∧ rest = tail := by
  rw [first.plainText_append, second.plainText_append, List.append_cancel_left_eq] at h
  obtain ⟨hparts, hrest⟩ := CommonParts.text_append_inj h
  exact ⟨hparts, List.tail_eq_of_cons_eq hrest⟩

theorem LibraryParts.text_append_inj {first second : LibraryParts}
    {rest tail : List Char} (h : first.text ++ rest = second.text ++ tail) :
    first = second ∧ rest = tail := by
  rw [first.text_append, second.text_append, List.append_cancel_left_eq] at h
  obtain ⟨hcommon, h⟩ := CommonParts.text_append_inj h
  obtain ⟨hafterAttributes, h⟩ := Run.append_run_inj apart_gap_header.symm h
  obtain ⟨hheader, h⟩ := Run.append_run_inj apart_gap_header h
  obtain ⟨hafterHeader, h⟩ := Run.append_run_inj apart_gap_word.symm h
  obtain ⟨hlanguages, hrest⟩ := Run.append_cons_inj isWord_closing h
  exact ⟨LibraryParts.ext hcommon hafterAttributes hheader hafterHeader hlanguages, hrest⟩

/-! ## The readers -/

theorem gap?_eq_some_iff {text rest : List Char} :
    gap? text = some rest ↔
      ∃ gap : Run isGapCharacter, text = gap.characters ++ rest ∧
        StopsAt isGapCharacter rest := by
  simp only [gap?, Option.map_eq_some_iff, Prod.exists, run?_eq_some_iff]
  constructor
  · rintro ⟨_, _, ⟨gap, -, htext, hstop⟩, rfl⟩
    exact ⟨gap, htext, hstop⟩
  · rintro ⟨gap, htext, hstop⟩
    exact ⟨gap.characters, rest, ⟨gap, rfl, htext, hstop⟩, rfl⟩

theorem quotedRun?_eq_some_iff {accepts : Char → Bool} (hquote : accepts '"' = false)
    {text run rest : List Char} :
    quotedRun? accepts text = some (run, rest) ↔
      ∃ quoted : Run accepts, quoted.characters = run ∧
        text = '"' :: (quoted.characters ++ '"' :: rest) := by
  simp only [quotedRun?, Option.bind_eq_bind, Option.bind_eq_some_iff, Option.pure_def,
    Option.some.injEq, Prod.mk.injEq, Prod.exists, literal?_eq_some_iff, run?_eq_some_iff]
  constructor
  · rintro ⟨_, rfl, _, _, ⟨quoted, rfl, rfl, -⟩, _, rfl, rfl, rfl⟩
    exact ⟨quoted, rfl, rfl⟩
  · rintro ⟨quoted, rfl, rfl⟩
    exact ⟨_, rfl, _, _, ⟨quoted, rfl, rfl, stopsAt_cons.mpr hquote⟩, rest, rfl, rfl, rfl⟩

theorem parseCommon?_eq_some_iff {text rest : List Char} {declaration : Declaration} :
    parseCommon? text = some (declaration, rest) ↔
      ∃ parts : CommonParts, text = parts.text ++ rest ∧
        declaration = parts.declaration := by
  simp only [parseCommon?, Option.bind_eq_bind, Option.bind_eq_some_iff, Option.pure_def,
    Option.some.injEq, Prod.mk.injEq, Prod.exists, literal?_eq_some_iff, run?_eq_some_iff,
    gap?_eq_some_iff, quotedRun?_eq_some_iff isSignatureCharacter_quote,
    quotedRun?_eq_some_iff isAttributeCharacter_quote]
  constructor
  · rintro ⟨_, rfl, _, _, ⟨name, rfl, rfl, -⟩, _, ⟨afterName, rfl, -⟩, _, _,
      ⟨signature, rfl, rfl⟩, _, ⟨afterSignature, rfl, -⟩, _, _,
      ⟨attributes, rfl, rfl⟩, rfl, rfl⟩
    refine ⟨⟨name, afterName, signature, afterSignature, attributes⟩, ?_, rfl⟩
    rw [CommonParts.text_append]
    rfl
  · -- Every run is followed by a delimiter or a gap, so none reads on into the next part.
    rintro ⟨parts, rfl, rfl⟩
    rw [parts.text_append]
    have hname := parts.afterName.stopsAt_append apart_gap_word
    exact ⟨_, rfl, _, _, ⟨parts.name, rfl, rfl, hname _⟩,
      _, ⟨parts.afterName, rfl, stopsAt_cons.mpr rfl⟩, _, _, ⟨parts.signature, rfl, rfl⟩,
      _, ⟨parts.afterSignature, rfl, stopsAt_cons.mpr rfl⟩,
      _, _, ⟨parts.attributes, rfl, rfl⟩, rfl, rfl⟩

theorem parsePlain?_eq_some_iff {line : List Char} {declaration : Declaration} :
    parsePlain? line = some declaration ↔
      ∃ (parts : CommonParts) (tail : List Char), line = parts.plainText ++ tail ∧
        declaration = parts.declaration := by
  simp only [parsePlain?, Option.bind_eq_bind, Option.bind_eq_some_iff, Option.pure_def,
    Option.some.injEq, Prod.exists, literal?_eq_some_iff, parseCommon?_eq_some_iff]
  constructor
  · rintro ⟨_, rfl, _, _, ⟨parts, rfl, rfl⟩, tail, rfl, rfl⟩
    exact ⟨parts, tail, (parts.plainText_append tail).symm, rfl⟩
  · rintro ⟨parts, tail, rfl, rfl⟩
    exact ⟨_, parts.plainText_append tail, _, _, ⟨parts, rfl, rfl⟩, tail, rfl, rfl⟩

theorem parseLibrary?_eq_some_iff {line : List Char} {declaration : Declaration} :
    parseLibrary? line = some declaration ↔
      ∃ (parts : LibraryParts) (tail : List Char), line = parts.text ++ tail ∧
        declaration = parts.declaration := by
  simp only [parseLibrary?, Option.bind_eq_bind, Option.bind_eq_some_iff, Option.pure_def,
    Option.some.injEq, Prod.exists, literal?_eq_some_iff, parseCommon?_eq_some_iff,
    run?_eq_some_iff, gap?_eq_some_iff]
  constructor
  · rintro ⟨_, rfl, _, _, ⟨common, rfl, rfl⟩, _, ⟨afterAttributes, rfl, -⟩, _, _,
      ⟨header, rfl, rfl, -⟩, _, ⟨afterHeader, rfl, -⟩, _, _, ⟨languages, rfl, rfl, -⟩,
      tail, rfl, rfl⟩
    refine ⟨⟨common, afterAttributes, header, afterHeader, languages⟩, tail, ?_, rfl⟩
    rw [LibraryParts.text_append]
    rfl
  · rintro ⟨parts, tail, rfl, rfl⟩
    have hafterAttributes := parts.header.stopsAt_append apart_gap_header.symm
    have hheader := parts.afterHeader.stopsAt_append apart_gap_header
    have hafterHeader := parts.languages.stopsAt_append apart_gap_word.symm
    exact ⟨_, parts.text_append tail, _, _, ⟨parts.common, rfl, rfl⟩,
      _, ⟨parts.afterAttributes, rfl, hafterAttributes _⟩,
      _, _, ⟨parts.header, rfl, rfl, hheader _⟩,
      _, ⟨parts.afterHeader, rfl, hafterHeader _⟩,
      _, _, ⟨parts.languages, rfl, rfl, stopsAt_cons.mpr isWord_closing⟩, tail, rfl, rfl⟩

/-! ## Markers -/

theorem not_plainMarker_of_libraryMarker {line : List Char} (h : libraryMarker <+: line) :
    ¬plainMarker <+: line := by
  rintro ⟨tail, htail⟩
  obtain ⟨rest, rfl⟩ := h
  have hlibrary : (libraryMarker ++ rest).head? = some 'L' := rfl
  have hplain : (plainMarker ++ tail).head? = some 'B' := rfl
  rw [htail, hlibrary] at hplain
  exact absurd hplain (by decide)

theorem libraryMarker_of_parseLibrary? {line : List Char}
    {declaration : Declaration} (h : parseLibrary? line = some declaration) :
    libraryMarker <+: line := by
  obtain ⟨parts, tail, rfl, -⟩ := parseLibrary?_eq_some_iff.mp h
  exact ⟨_, (parts.text_append tail).symm⟩

theorem plainMarker_of_parsePlain? {line : List Char}
    {declaration : Declaration} (h : parsePlain? line = some declaration) :
    plainMarker <+: line := by
  obtain ⟨parts, tail, rfl, -⟩ := parsePlain?_eq_some_iff.mp h
  exact ⟨_, (parts.plainText_append tail).symm⟩

theorem parsePlain?_eq_none {line : List Char} (h : libraryMarker <+: line) :
    parsePlain? line = none := by
  cases hplain : parsePlain? line with
  | none => rfl
  | some declaration =>
      exact absurd (plainMarker_of_parsePlain? hplain) (not_plainMarker_of_libraryMarker h)

theorem parseLibrary?_eq_none_or (line : List Char) :
    parseLibrary? line = none ∨ parsePlain? line = none := by
  cases hlibrary : parseLibrary? line with
  | none => exact .inl rfl
  | some declaration =>
      exact .inr (parsePlain?_eq_none (libraryMarker_of_parseLibrary? hlibrary))

theorem parse?_eq_or (line : List Char) :
    parse? line = (parseLibrary? line).or (parsePlain? line) := by
  simp only [parse?, List.isPrefixOf_iff_prefix]
  split
  next hlibrary => rw [parsePlain?_eq_none hlibrary, Option.or_none]
  next hlibrary =>
    have hnone : parseLibrary? line = none :=
      Option.eq_none_iff_forall_ne_some.mpr fun _ h =>
        hlibrary (libraryMarker_of_parseLibrary? h)
    rw [hnone, Option.none_or]
    split
    · rfl
    next hplain =>
      exact (Option.eq_none_iff_forall_ne_some.mpr fun _ h =>
        hplain (plainMarker_of_parsePlain? h)).symm

/-! ## The grammar -/

/--
Each reader accepts the lines that can be cut into the parts of its form, and
there is never a second cut.  A line is read in the form that it has.
-/
theorem readers_accept_grammar (line : List Char) :
    (∀ declaration, parseLibrary? line = some declaration ↔
      ∃ (parts : LibraryParts) (tail : List Char), line = parts.text ++ tail ∧
        declaration = parts.declaration) ∧
    (∀ declaration, parsePlain? line = some declaration ↔
      ∃ (parts : CommonParts) (tail : List Char), line = parts.plainText ++ tail ∧
        declaration = parts.declaration) ∧
    (∀ (first second : LibraryParts) (rest tail : List Char),
      line = first.text ++ rest → line = second.text ++ tail →
        first = second ∧ rest = tail) ∧
    (∀ (first second : CommonParts) (rest tail : List Char),
      line = first.plainText ++ rest → line = second.plainText ++ tail →
        first = second ∧ rest = tail) ∧
    parse? line = (parseLibrary? line).or (parsePlain? line) ∧
    (parseLibrary? line = none ∨ parsePlain? line = none) ∧
    (parse? line = none ↔ parseLibrary? line = none ∧ parsePlain? line = none) := by
  refine ⟨fun _ => parseLibrary?_eq_some_iff, fun _ => parsePlain?_eq_some_iff, ?_, ?_,
    parse?_eq_or line, parseLibrary?_eq_none_or line, ?_⟩
  · intro first second rest tail hfirst hsecond
    exact LibraryParts.text_append_inj (hfirst.symm.trans hsecond)
  · intro first second rest tail hfirst hsecond
    exact CommonParts.plainText_append_inj (hfirst.symm.trans hsecond)
  · rw [parse?_eq_or, Option.or_eq_none_iff]

end BuiltinWrappers.Declaration
