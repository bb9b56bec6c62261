import BuiltinWrappers.Proofs.Text.Run
import BuiltinWrappers.Proofs.Toml.Order

/-!
# Documents that are written

A document is written as sections of a header and fields, one to a line, with an
empty line between two sections.  If the text of each value is read as the value,
whatever stands behind it, the whole is read back as the table of its sections.
-/

namespace BuiltinWrappers.Toml

open Text (StopsAt Run stopsAt_cons)

/-! ## Gaps -/

def isSolid (character : Char) : Bool :=
  !isSpace character && character != '#' && character != '\n' && character != '\r'

theorem skipGap?_of_isSolid {first : Char} (h : isSolid first) (rest : List Char) :
    skipGap? false (first :: rest) = some (first :: rest) := by
  simp only [isSolid, Bool.and_eq_true, Bool.not_eq_true', bne_iff_ne] at h
  obtain ⟨⟨⟨hspace, hcomment⟩, hfeed⟩, hreturn⟩ := h
  rw [skipGap?]
  · simp [hspace, hcomment]
  · exact hfeed
  · exact fun _ heq => absurd heq hreturn

theorem skipGap?_spaces {spaces : List Char} (h : ∀ character ∈ spaces, isSpace character)
    (text : List Char) : skipGap? false (spaces ++ text) = skipGap? false text := by
  induction spaces with
  | nil => rfl
  | cons space spaces ih =>
      obtain ⟨hspace, hspaces⟩ := List.forall_mem_cons.mp h
      have hreturn : space ≠ '\r' := by rintro rfl; contradiction
      have hfeed : space ≠ '\n' := by rintro rfl; contradiction
      rw [List.cons_append, skipGap?]
      · simp [hspace, ih hspaces]
      · exact hfeed
      · exact fun _ heq => absurd heq hreturn

theorem skipSpaces_cons {first : Char} (h : isSpace first = false) (rest : List Char) :
    skipSpaces (first :: rest) = first :: rest :=
  List.dropWhile_cons_of_neg (by simp [h])

theorem skipSpaces_space (rest : List Char) : skipSpaces (' ' :: rest) = skipSpaces rest := rfl

/-! ## Texts between double quotes -/

def isLiteral (character : Char) : Bool :=
  isLineCharacter character && character != '"' && character != '\\'

theorem lineBody?_append {body : List Char} (h : ∀ character ∈ body, isLiteral character)
    (rest : List Char) : lineBody? '"' true (body ++ '"' :: rest) = some (body, rest) := by
  induction body with
  | nil => cases rest <;> rfl
  | cons first body ih =>
      obtain ⟨hfirst, hbody⟩ := List.forall_mem_cons.mp h
      simp only [isLiteral, Bool.and_eq_true, bne_iff_ne] at hfirst
      obtain ⟨⟨hline, hquote⟩, hescape⟩ := hfirst
      obtain ⟨second, after, hafter⟩ : ∃ second after, body ++ '"' :: rest = second :: after :=
        List.exists_cons_of_ne_nil (by simp)
      rw [List.cons_append, hafter, lineBody?, ← hafter, ih hbody]
      simp [hline, hquote, hescape]

theorem unescape?_of_isLiteral {body : List Char} (h : ∀ character ∈ body, isLiteral character) :
    unescape? false body = some body := by
  induction body with
  | nil => rfl
  | cons first body ih =>
      obtain ⟨hfirst, hbody⟩ := List.forall_mem_cons.mp h
      have hescape : first ≠ '\\' := by
        rintro rfl
        contradiction
      rw [unescape?]
      · simp [ih hbody]
      all_goals grind

theorem text?_quoted {body : List Char} (hne : body ≠ [])
    (h : ∀ character ∈ body, isLiteral character) (rest : List Char) :
    text? ('"' :: (body ++ '"' :: rest)) = some (body, rest) := by
  obtain ⟨first, tail, rfl⟩ := List.exists_cons_of_ne_nil hne
  have hquote : first ≠ '"' := by
    rintro rfl
    exact absurd (h '"' List.mem_cons_self) (by decide)
  have hline : lineText? ('"' :: (first :: tail ++ '"' :: rest)) = some (first :: tail, rest) := by
    rw [lineText?, lineBody?_append h]
    simp [unescape?_of_isLiteral h]
  rw [text?]
  · exact hline
  · simp [hquote]
  · simp

theorem value?_quoted (depth : Nat) {body : List Char} (hne : body ≠ [])
    (h : ∀ character ∈ body, isLiteral character) (rest : List Char) :
    value? depth ('"' :: (body ++ '"' :: rest)) = some (.string (.ofList body), rest) := by
  rw [value?]
  · rw [plainValue?, if_pos (by simp), text?_quoted hne h]
    rfl
  · simp
  · simp

/-! ## Lists between brackets -/

theorem items?_of_closing {α : Type} (item? : List Char → Option (α × List Char))
    {closing : Char} (h : isSolid closing) {spaces : List Char}
    (hspaces : ∀ character ∈ spaces, isSpace character) (rest : List Char) :
    items? item? closing (spaces ++ closing :: rest) = some ([], rest) := by
  rw [items?, skipGap?_spaces hspaces, skipGap?_of_isSolid h]
  simp

/--
Items with a comma and a space between two of them are read back if each is, whatever
stands behind it.  The spaces in front are those after a comma.
-/
theorem items?_intercalate {α β : Type} {item? : List Char → Option (α × List Char)}
    {closing : Char} (hclosing : isSolid closing) (hcomma : closing ≠ ',')
    {write : β → List Char} {value : β → α} {parts : List β}
    (hstart : ∀ part ∈ parts, ∃ first text, write part = first :: text ∧ isSolid first ∧
      first ≠ closing)
    (hread : ∀ part ∈ parts, ∀ rest, item? (write part ++ rest) = some (value part, rest))
    {spaces : List Char} (hspaces : ∀ character ∈ spaces, isSpace character) (rest : List Char) :
    items? item? closing
        (spaces ++ ([',', ' '].intercalate (parts.map write) ++ closing :: rest)) =
      some (parts.map value, rest) := by
  induction parts generalizing spaces with
  | nil => exact items?_of_closing item? hclosing hspaces rest
  | cons part parts ih =>
      obtain ⟨⟨first, text, hwrite, hfirst, hne⟩, hstarts⟩ := List.forall_mem_cons.mp hstart
      obtain ⟨hpart, hparts⟩ := List.forall_mem_cons.mp hread
      cases parts with
      | nil =>
          have hfront := hpart (closing :: rest)
          rw [hwrite, List.cons_append] at hfront
          rw [items?, skipGap?_spaces hspaces, List.map_singleton, List.intercalate_singleton,
            hwrite, List.cons_append, skipGap?_of_isSolid hfirst]
          simp [hne, hfront, skipGap?_of_isSolid hclosing]
      | cons next parts =>
          let others := [',', ' '].intercalate ((next :: parts).map write) ++ closing :: rest
          have hspace : ∀ character ∈ [' '], isSpace character := by simp [isSpace]
          have hothers : items? item? closing (' ' :: others) =
              some ((next :: parts).map value, rest) :=
            ih hstarts hparts hspace
          have hfront := hpart (',' :: ' ' :: others)
          rw [hwrite, List.cons_append] at hfront
          have hsplit : [',', ' '].intercalate ((part :: next :: parts).map write) ++
              closing :: rest = first :: (text ++ ',' :: ' ' :: others) := by
            rw [List.map_cons, List.map_cons, List.intercalate_cons_cons, ← List.map_cons, hwrite]
            simp [others]
          rw [hsplit, items?, skipGap?_spaces hspaces, skipGap?_of_isSolid hfirst]
          simp [hne, hfront, skipGap?_of_isSolid, isSolid, isSpace, hothers, hcomma.symm]
          omega

/-! ## Keys and statements -/

abbrev BareKey := Run isBareKeyCharacter

namespace BareKey

def ofText (text : String) (hne : text.toList ≠ []) (h : text.toList.all isBareKeyCharacter) :
    BareKey :=
  ⟨text.toList, hne, List.all_eq_true.mp h⟩

def dotted (key : BareKey) : DottedKey := ⟨[], .ofList key.characters⟩

theorem dottedKey?_append (key : BareKey) {rest : List Char}
    (hstop : StopsAt isBareKeyCharacter rest) (hdot : (skipSpaces rest).head? ≠ some '.') :
    dottedKey? (key.characters ++ rest) = some (key.dotted, rest) := by
  have hrun : Text.run? isBareKeyCharacter (key.characters ++ rest) =
      some (key.characters, rest) :=
    Text.run?_append key.characters_ne_nil key.accepted hstop
  have hkeys : dottedKeys? rest = some ([], rest) := by
    rw [dottedKeys?]
    split
    next hspaces => simp [hspaces] at hdot
    · rfl
  simp [dottedKey?, simpleKey?, hrun, hkeys, longestDottedKey, dotted]

theorem exists_cons (key : BareKey) :
    ∃ first text, key.characters = first :: text ∧ isBareKeyCharacter first :=
  match key with
  | ⟨first :: text, _, haccepted⟩ => ⟨first, text, rfl, haccepted first List.mem_cons_self⟩

end BareKey

theorem isSolid_of_isBareKeyCharacter {character : Char} (h : isBareKeyCharacter character) :
    isSolid character := by
  have hgap : ∀ other ∈ [' ', '\t', '#', '\n', '\r'], isBareKeyCharacter other = false := by
    simp [isBareKeyCharacter]
  have hne : ∀ other ∈ [' ', '\t', '#', '\n', '\r'], character ≠ other := by
    rintro other hother rfl
    simp [hgap character hother] at h
  simp only [List.forall_mem_cons] at hne
  simp [isSolid, isSpace, hne]

theorem endLine?_lineFeed (rest : List Char) : endLine? ('\n' :: rest) = some rest := rfl

/-- A key and a value, with the text that stands for the value. -/
structure WrittenField where
  key : BareKey
  text : List Char
  value : Value

namespace WrittenField

/-- The text begins with no space and is read as the value up to the end of the line. -/
structure Readable (field : WrittenField) : Prop where
  start : ∃ first rest, field.text = first :: rest ∧ isSpace first = false
  read : ∀ rest, value? deepestNesting (field.text ++ '\n' :: rest) =
    some (field.value, '\n' :: rest)

def line (field : WrittenField) : List Char :=
  field.key.characters ++ ' ' :: '=' :: ' ' :: (field.text ++ ['\n'])

def statement (field : WrittenField) : Statement := .assignment field.key.dotted field.value

theorem keyValue?_line {field : WrittenField} (h : field.Readable) (rest : List Char) :
    keyValue? (some ∘ skipSpaces) (value? deepestNesting) (field.line ++ rest) =
      some ((field.key.dotted, field.value), '\n' :: rest) := by
  obtain ⟨first, text, htext, hfirst⟩ := h.start
  have hline : field.line ++ rest =
      field.key.characters ++ (' ' :: '=' :: ' ' :: (field.text ++ '\n' :: rest)) := by
    simp [line]
  have hkey : dottedKey? (field.line ++ rest) =
      some (field.key.dotted, ' ' :: '=' :: ' ' :: (field.text ++ '\n' :: rest)) := by
    rw [hline]
    exact field.key.dottedKey?_append (stopsAt_cons.mpr (by decide)) (by simp [skipSpaces, isSpace])
  have hequals : skipSpaces (' ' :: '=' :: ' ' :: (field.text ++ '\n' :: rest)) =
      '=' :: ' ' :: (field.text ++ '\n' :: rest) := by
    rw [skipSpaces_space, skipSpaces_cons (by decide)]
  have hvalue : skipSpaces (' ' :: (field.text ++ '\n' :: rest)) = field.text ++ '\n' :: rest := by
    rw [skipSpaces_space, htext, List.cons_append, skipSpaces_cons hfirst]
  simp [keyValue?, hkey, hequals, hvalue, Text.literal?, h.read]

theorem statement?_line {field : WrittenField} (h : field.Readable) (rest : List Char) :
    statement? (field.line ++ rest) = some (field.statement, rest) := by
  obtain ⟨first, text, hkey, hfirst⟩ := field.key.exists_cons
  have hbracket : first ≠ '[' := by
    rintro rfl
    contradiction
  have hread := keyValue?_line h rest
  have hstart : field.line ++ rest =
      first :: (text ++ ' ' :: '=' :: ' ' :: (field.text ++ '\n' :: rest)) := by
    simp [line, hkey]
  rw [hstart] at hread ⊢
  rw [statement?]
  · simp [hread, endLine?_lineFeed, statement]
  · simp [hbracket]
  · simp [hbracket]

end WrittenField

/-! ## Sections -/

/-- The header of a table and the fields below it. -/
structure WrittenSection where
  name : BareKey
  fields : List WrittenField

namespace WrittenSection

def header (written : WrittenSection) : List Char :=
  '[' :: (written.name.characters ++ [']', '\n'])

def text (written : WrittenSection) : List Char :=
  written.header ++ written.fields.flatMap WrittenField.line

def statements (written : WrittenSection) : List Statement :=
  .table written.name.dotted :: written.fields.map WrittenField.statement

def Readable (written : WrittenSection) : Prop := ∀ field ∈ written.fields, field.Readable

theorem statement?_header (written : WrittenSection) (rest : List Char) :
    statement? (written.header ++ rest) = some (.table written.name.dotted, rest) := by
  obtain ⟨first, text, hname, hfirst⟩ := written.name.exists_cons
  have hbracket : first ≠ '[' := by
    rintro rfl
    contradiction
  have hspace : isSpace first = false := by
    have hsolid := isSolid_of_isBareKeyCharacter hfirst
    simp only [isSolid, Bool.and_eq_true, Bool.not_eq_true'] at hsolid
    exact hsolid.1.1.1
  have hkey : dottedKey? (written.name.characters ++ ']' :: '\n' :: rest) =
      some (written.name.dotted, ']' :: '\n' :: rest) :=
    written.name.dottedKey?_append (stopsAt_cons.mpr (by decide)) (by simp [skipSpaces, isSpace])
  rw [hname, List.cons_append] at hkey
  have hclosing : skipSpaces (']' :: '\n' :: rest) = ']' :: '\n' :: rest :=
    skipSpaces_cons (by decide) _
  have hheader : written.header ++ rest = '[' :: first :: (text ++ ']' :: '\n' :: rest) := by
    simp [header, hname]
  rw [hheader, statement?]
  · simp [skipSpaces_cons hspace, hkey, hclosing, Text.literal?, endLine?_lineFeed]
  · simp [hbracket]

end WrittenSection

theorem statements?_of_statement? {text start after : List Char} {statement : Statement}
    (hgap : skipGap? false text = some start) (hstart : start ≠ [])
    (hread : statement? start = some (statement, after)) (hshorter : after.length < text.length) :
    statements? text = (statements? after).map (statement :: ·) := by
  obtain ⟨first, rest, rfl⟩ := List.exists_cons_of_ne_nil hstart
  rw [statements?]
  simp [hgap, hread, hshorter]
  cases statements? after <;> rfl

theorem statements?_fields {fields : List WrittenField} (h : ∀ field ∈ fields, field.Readable)
    (rest : List Char) :
    statements? (fields.flatMap WrittenField.line ++ rest) =
      (statements? rest).map (fields.map WrittenField.statement ++ ·) := by
  induction fields with
  | nil => simp
  | cons field fields ih =>
      obtain ⟨hfield, hfields⟩ := List.forall_mem_cons.mp h
      let others := fields.flatMap WrittenField.line ++ rest
      obtain ⟨first, text, hkey, hfirst⟩ := field.key.exists_cons
      have hgap : skipGap? false (field.line ++ others) = some (field.line ++ others) := by
        rw [WrittenField.line, hkey, List.cons_append, List.cons_append]
        exact skipGap?_of_isSolid (isSolid_of_isBareKeyCharacter hfirst) _
      have hstep := statements?_of_statement? hgap (by simp [WrittenField.line])
        (WrittenField.statement?_line hfield others) (by simp [WrittenField.line]; omega)
      rw [List.flatMap_cons, List.append_assoc, hstep, ih hfields, Option.map_map]
      rfl

theorem statements?_section {written : WrittenSection} (h : written.Readable) {gap : List Char}
    (hgap : ∀ text, skipGap? false (gap ++ text) = skipGap? false text) (rest : List Char) :
    statements? (gap ++ (written.text ++ rest)) =
      (statements? rest).map (written.statements ++ ·) := by
  let others := written.fields.flatMap WrittenField.line ++ rest
  have hstart : skipGap? false (gap ++ (written.header ++ others)) =
      some (written.header ++ others) :=
    (hgap _).trans (skipGap?_of_isSolid (by decide) _)
  have hstep := statements?_of_statement? hstart (by simp [WrittenSection.header])
    (written.statement?_header others) (by simp [WrittenSection.header]; omega)
  rw [WrittenSection.text, List.append_assoc, hstep, statements?_fields h, Option.map_map]
  rfl

def writtenText (sections : List WrittenSection) : List Char :=
  ['\n'].intercalate (sections.map WrittenSection.text)

theorem statements?_writtenText {sections : List WrittenSection}
    (h : ∀ written ∈ sections, written.Readable) {gap : List Char}
    (hgap : ∀ text, skipGap? false (gap ++ text) = skipGap? false text) :
    statements? (gap ++ writtenText sections) =
      some (sections.flatMap WrittenSection.statements) := by
  induction sections generalizing gap with
  | nil =>
      have hempty : skipGap? false gap = some [] := by simpa [skipGap?] using hgap []
      rw [statements?]
      simp [writtenText, hempty]
  | cons written sections ih =>
      obtain ⟨hwritten, hsections⟩ := List.forall_mem_cons.mp h
      cases sections with
      | nil =>
          have hread := statements?_section hwritten hgap []
          have hempty : statements? [] = some [] := by
            rw [statements?]
            simp [skipGap?]
          simpa [writtenText, hempty] using hread
      | cons next sections =>
          have hfeed : ∀ text, skipGap? false (['\n'] ++ text) = skipGap? false text := fun _ => rfl
          have hread := statements?_section hwritten hgap ('\n' :: writtenText (next :: sections))
          have hothers := ih hsections hfeed
          rw [List.singleton_append] at hothers
          rw [hothers] at hread
          simpa [writtenText] using hread

/-! ## Tables -/

section

variable {α : Type} {key other : String} {value : α} {entries : List (String × α)}

theorem insertEntry_insertEntry_self (key : String) (value last : α)
    (entries : List (String × α)) :
    insertEntry key last (insertEntry key value entries) = insertEntry key last entries := by
  fun_induction insertEntry key value entries with
  | case1 => simp [insertEntry]
  | case2 => simp [insertEntry]
  | case3 => simp [insertEntry, *]
  | case4 => simp [insertEntry, *]

theorem lookup?_insertEntry_of_ne (h : other ≠ key) :
    lookup? other (insertEntry key value entries) = lookup? other entries := by
  fun_induction insertEntry key value entries with
  | case1 => simp [lookup?, Ne.symm h]
  | case2 => simp [lookup?, Ne.symm h]
  | case3 => simp [lookup?, Ne.symm h]
  | case4 found foundValue entries _ _ ih =>
      unfold lookup? at ih ⊢
      by_cases hfound : found = other
      · simp [hfound]
      · simpa [hfound] using ih

theorem lookup?_insertEntry_of_not_mem {β : Type} {keyOf : β → String} {part : β} {parts : List β}
    (hother : keyOf part ∉ parts.map keyOf)
    (hnew : ∀ later ∈ parts, lookup? (keyOf later) entries = none) :
    ∀ later ∈ parts, lookup? (keyOf later) (insertEntry (keyOf part) value entries) = none := by
  intro later hlater
  rw [lookup?_insertEntry_of_ne, hnew later hlater]
  intro hsame
  exact hother (List.mem_map.mpr ⟨later, hlater, hsame⟩)

def insertAll (pairs entries : List (String × α)) : List (String × α) :=
  pairs.foldl (fun entries (key, value) => insertEntry key value entries) entries

theorem lookup?_cons_of_ne {pair : String × α} (h : pair.1 ≠ key) :
    lookup? key (pair :: entries) = lookup? key entries := by
  simp [lookup?, h]

theorem lookup?_insertAll {pairs : List (String × α)} (hnodup : (pairs.map Prod.fst).Nodup) :
    lookup? key (insertAll pairs entries) = (lookup? key pairs).or (lookup? key entries) := by
  induction pairs generalizing entries with
  | nil => rfl
  | cons pair pairs ih =>
      obtain ⟨found, value⟩ := pair
      obtain ⟨hnew, hpairs⟩ := List.nodup_cons.mp hnodup
      rw [insertAll, List.foldl_cons, ← insertAll, ih hpairs]
      by_cases hfound : found = key
      · subst hfound
        have hnone : lookup? found pairs = none := by
          by_contra hsome
          obtain ⟨old, hold⟩ := Option.ne_none_iff_exists'.mp hsome
          exact hnew (List.mem_map.mpr ⟨_, mem_of_lookup? hold, rfl⟩)
        rw [hnone, lookup?_insertEntry_self]
        simp [lookup?]
      · rw [lookup?_insertEntry_of_ne (Ne.symm hfound), lookup?_cons_of_ne hfound]

theorem mem_of_mem_insertAll {pairs : List (String × α)} {entry : String × α}
    (h : entry ∈ insertAll pairs entries) : entry ∈ pairs ∨ entry ∈ entries := by
  induction pairs generalizing entries with
  | nil => exact .inr h
  | cons pair pairs ih =>
      rcases ih h with hpairs | hentries
      · exact .inl (List.mem_cons_of_mem _ hpairs)
      · rcases mem_of_mem_insertEntry hentries with rfl | hold
        · exact .inl List.mem_cons_self
        · exact .inr hold

end

theorem Draft.closeEntries_insertEntry (key : String) (draft : Draft) (entries : Draft.Entries) :
    closeEntries (insertEntry key draft entries) =
      insertEntry key draft.close (closeEntries entries) := by
  fun_induction insertEntry key draft entries with
  | case1 => rfl
  | case2 => simp [closeEntries, insertEntry]
  | case3 => simp [closeEntries, insertEntry, *]
  | case4 => simp [closeEntries, insertEntry, *]

theorem Draft.closeEntries_insertAll (pairs entries : Draft.Entries) :
    closeEntries (insertAll pairs entries) =
      insertAll (pairs.map fun pair => (pair.1, pair.2.close)) (closeEntries entries) := by
  induction pairs generalizing entries with
  | nil => rfl
  | cons pair pairs ih =>
      rw [insertAll, List.foldl_cons, ← insertAll, ih, closeEntries_insertEntry]
      rfl

/-! ## Documents -/

namespace BareKey

def name (key : BareKey) : String := .ofList key.characters

end BareKey

def WrittenSection.pairs (written : WrittenSection) : Table :=
  written.fields.map fun field => (field.key.name, field.value)

def writtenTable (sections : List WrittenSection) : Table :=
  insertAll
    (sections.map fun written => (written.name.name, .table (insertAll written.pairs []))) []

/-- No section stands there twice, and no field stands twice in one section. -/
structure DistinctKeys (sections : List WrittenSection) : Prop where
  names : (sections.map fun written => written.name.name).Nodup
  fields : ∀ written ∈ sections, (written.pairs.map Prod.fst).Nodup

namespace OpenDocument

theorem apply_table {document : OpenDocument} {name : BareKey}
    (h : lookup? name.name document.entries = none) :
    document.apply (.table name.dotted) =
      some ⟨insertEntry name.name (.table .defined []) document.entries, [name.name]⟩ := by
  unfold BareKey.name at *
  simp [apply, edit, Draft.change, Draft.defineTable, BareKey.dotted, h]

theorem apply_assignment {inner entries : Draft.Entries} {name key : BareKey} {value : Value}
    (h : lookup? key.name inner = none) :
    apply ⟨insertEntry name.name (.table .defined inner) entries, [name.name]⟩
        (.assignment key.dotted value) =
      some ⟨insertEntry name.name (.table .defined (insertEntry key.name (.closed value) inner))
        entries, [name.name]⟩ := by
  unfold BareKey.name at *
  simp [apply, edit, Draft.change, Draft.assign, Draft.addNew, BareKey.dotted, h,
    lookup?_insertEntry_self, insertEntry_insertEntry_self]

theorem foldlM_fields {fields : List WrittenField} {inner entries : Draft.Entries}
    {name : BareKey} (hnodup : (fields.map fun field => field.key.name).Nodup)
    (hnew : ∀ field ∈ fields, lookup? field.key.name inner = none) :
    (fields.map WrittenField.statement).foldlM apply
        ⟨insertEntry name.name (.table .defined inner) entries, [name.name]⟩ =
      some ⟨insertEntry name.name (.table .defined
        (insertAll (fields.map fun field => (field.key.name, .closed field.value)) inner)) entries,
        [name.name]⟩ := by
  induction fields generalizing inner with
  | nil => rfl
  | cons field fields ih =>
      obtain ⟨hother, hfields⟩ := List.nodup_cons.mp hnodup
      obtain ⟨hfield, hnews⟩ := List.forall_mem_cons.mp hnew
      rw [List.map_cons, List.foldlM_cons, WrittenField.statement, apply_assignment hfield]
      exact ih hfields (lookup?_insertEntry_of_not_mem hother hnews)

def draftOf (written : WrittenSection) : Draft :=
  .table .defined (insertAll (written.fields.map fun field =>
    (field.key.name, .closed field.value)) [])

theorem foldlM_sections {sections : List WrittenSection} {document : OpenDocument}
    (hdistinct : DistinctKeys sections)
    (hnew : ∀ written ∈ sections, lookup? written.name.name document.entries = none) :
    ∃ current, (sections.flatMap WrittenSection.statements).foldlM apply document =
      some ⟨insertAll (sections.map fun written => (written.name.name, draftOf written))
        document.entries, current⟩ := by
  induction sections generalizing document with
  | nil => exact ⟨document.current, rfl⟩
  | cons written sections ih =>
      obtain ⟨hother, hnames⟩ := List.nodup_cons.mp hdistinct.names
      obtain ⟨hfields, hsections⟩ := List.forall_mem_cons.mp hdistinct.fields
      obtain ⟨hwritten, hnews⟩ := List.forall_mem_cons.mp hnew
      have hsection : written.statements.foldlM apply document =
          some ⟨insertEntry written.name.name (draftOf written) document.entries,
            [written.name.name]⟩ := by
        rw [WrittenSection.statements, List.foldlM_cons, apply_table hwritten]
        refine foldlM_fields ?_ (fun _ _ => rfl)
        rwa [WrittenSection.pairs, List.map_map] at hfields
      rw [List.flatMap_cons, List.foldlM_append, hsection]
      exact ih ⟨hnames, hsections⟩ (lookup?_insertEntry_of_not_mem hother hnews)

end OpenDocument

theorem close_draftOf (written : WrittenSection) :
    (OpenDocument.draftOf written).close = .table (insertAll written.pairs []) := by
  rw [OpenDocument.draftOf, Draft.close, Draft.closeEntries_insertAll, List.map_map]
  rfl

theorem documentOf?_sections {sections : List WrittenSection} (h : DistinctKeys sections) :
    documentOf? (sections.flatMap WrittenSection.statements) = some (writtenTable sections) := by
  have hnew : ∀ written ∈ sections,
      lookup? written.name.name ({} : OpenDocument).entries = none := fun _ _ => rfl
  obtain ⟨current, hfold⟩ := OpenDocument.foldlM_sections h hnew
  rw [documentOf?, hfold, Option.map_some, Draft.closeEntries_insertAll, List.map_map]
  simp only [Function.comp_def, close_draftOf]
  rfl

theorem lookup?_writtenTable {sections : List WrittenSection} (h : DistinctKeys sections)
    (name : String) :
    lookup? name (writtenTable sections) = (sections.find? fun written =>
      written.name.name = name).map fun written => .table (insertAll written.pairs []) := by
  have hnodup : ((sections.map fun written =>
      (written.name.name, Value.table (insertAll written.pairs []))).map Prod.fst).Nodup := by
    rw [List.map_map]
    exact h.names
  rw [writtenTable, lookup?_insertAll hnodup, lookup?, List.find?_map, Option.map_map]
  exact Option.or_none

theorem document?_writtenText {sections : List WrittenSection} (hdistinct : DistinctKeys sections)
    (hreadable : ∀ written ∈ sections, written.Readable) :
    document? (writtenText sections) = some (writtenTable sections) := by
  have hmark : dropByteOrderMark (writtenText sections) = writtenText sections := by
    cases sections with
    | nil => rfl
    | cons written sections => cases sections <;> rfl
  have hread : statements? ([] ++ writtenText sections) =
      some (sections.flatMap WrittenSection.statements) :=
    statements?_writtenText hreadable (fun _ => rfl)
  rw [List.nil_append] at hread
  rw [document?, hmark, hread]
  exact documentOf?_sections hdistinct

end BuiltinWrappers.Toml
