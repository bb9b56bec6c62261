import BuiltinWrappers.Proofs.Text.Joined
import BuiltinWrappers.Proofs.Wrapper.Characters

/-!
# Reading a compiler header back

A compiler header is cut at its line ends too.  Between fixed lines it has the
quoted wrapper prefix and one line for each name of the set, or an empty line if
there is none.  Reading is the inverse of writing wherever prefix and names are
identifiers.
-/

namespace BuiltinWrappers

open Text

/-! ## The lines of the set -/

def quotedLine (name : String) : List Char := '"' :: name.toList ++ ['"']

/-- The lines between the braces; a comma ends each of them but the last. -/
def entryLines : List String → List (List Char)
  | [] => [[]]
  | [name] => [quotedLine name]
  | name :: next :: names => (quotedLine name ++ [',']) :: entryLines (next :: names)

theorem inQuotes_toList (name : String) : (inQuotes name).toList = quotedLine name := by
  have hquote : ("\"").toList = ['"'] := rfl
  unfold inQuotes quotedLine
  rw [String.toList_append, String.toList_append, hquote, List.singleton_append]

theorem not_mem_quotedLine {name : String} (hidentifier : isIdentifier name) :
    '\n' ∉ quotedLine name := by
  have hname : '\n' ∉ name.toList :=
    not_mem_of_isIdentifier hidentifier (by decide)
  simp [quotedLine, hname]

theorem setEntries_splitOn {names : List String}
    (hidentifiers : ∀ name ∈ names, isIdentifier name) :
    (setEntries names).toList.splitOn '\n' = entryLines names := by
  have hseparator : (",\n").toList = [',', '\n'] := rfl
  rw [setEntries, String.toList_intercalate, hseparator, List.map_map]
  induction names with
  | nil => simp [entryLines]
  | cons name names ih =>
      have hline := not_mem_quotedLine (hidentifiers name List.mem_cons_self)
      cases names with
      | nil =>
          rw [List.map_singleton, List.intercalate_singleton, Function.comp_apply,
            inQuotes_toList, List.splitOn_eq_singleton hline, entryLines]
      | cons next names =>
          have hrest := ih fun other hmem => hidentifiers other (List.mem_cons_of_mem _ hmem)
          have hcomma : '\n' ∉ quotedLine name ++ [','] := by simp [hline]
          rw [entryLines, ← hrest, List.map_cons, List.map_cons, List.intercalate_cons_cons,
            ← List.map_cons, Function.comp_apply, inQuotes_toList,
            ← List.splitOn_append_cons_self_of_not_mem hcomma]
          simp

/-! ## The fixed lines -/

def openingTexts : List String :=
  [banner, "#ifdef HAVE_LLVM", "#include <unordered_set>", "#include <string>"]

def setTexts : List String :=
  ["std::unordered_set<std::string> chplClangBuiltinWrappedFunctions =", "\x7b"]

def closingTexts : List String := ["\x7d;\n", "#endif"]

def definitionWords : List Char := "#define WRAPPER_PREFIX ".toList

def openingLines : List (List Char) := openingTexts.map String.toList

def setLines : List (List Char) := setTexts.map String.toList

def closingLines : List (List Char) := [['\x7d', ';'], [], "#endif".toList, []]

def definitionText (wrapperPrefix : String) : String :=
  "#define WRAPPER_PREFIX " ++ inQuotes wrapperPrefix

theorem compilerText_eq (wrapperPrefix : String) (names : List String) :
    compilerText wrapperPrefix names =
      "\n".intercalate (openingTexts ++ [definitionText wrapperPrefix] ++ setTexts ++
        [setEntries names] ++ closingTexts) ++ "\n" :=
  rfl

theorem definitionText_toList (wrapperPrefix : String) :
    (definitionText wrapperPrefix).toList =
      definitionWords ++ quotedLine wrapperPrefix := by
  have hwords : ("#define WRAPPER_PREFIX ").toList = definitionWords := rfl
  unfold definitionText
  rw [String.toList_append, inQuotes_toList, hwords]

theorem compilerText_splitOn {wrapperPrefix : String} {names : List String}
    (hidentifier : isIdentifier wrapperPrefix)
    (hidentifiers : ∀ name ∈ names, isIdentifier name) :
    (compilerText wrapperPrefix names).toList.splitOn '\n' =
      openingLines ++ [definitionWords ++ quotedLine wrapperPrefix] ++ setLines ++
        entryLines names ++ closingLines := by
  have hline : ("\n").toList = ['\n'] := rfl
  have hdefinition : '\n' ∉ definitionWords ++ quotedLine wrapperPrefix := by
    have hwords : '\n' ∉ definitionWords := by decide
    simp [hwords, not_mem_quotedLine hidentifier]
  have hopening : openingTexts.flatMap (·.toList.splitOn '\n') = openingLines := by decide
  have hset : setTexts.flatMap (·.toList.splitOn '\n') = setLines := by decide
  have hclosing : closingTexts.flatMap (·.toList.splitOn '\n') ++ [[]] = closingLines := by
    decide
  rw [compilerText_eq, String.toList_append, String.toList_intercalate, hline,
    List.splitOn_append_cons_self, splitOn_intercalate_flatMap '\n' (by simp)]
  simp only [List.map_append, List.map_singleton, List.flatMap_append, List.flatMap_map,
    List.flatMap_singleton, hopening, hset, definitionText_toList,
    List.splitOn_eq_singleton hdefinition, setEntries_splitOn hidentifiers,
    List.splitOn_nil, List.append_assoc, hclosing]

/-! ## Reading -/

def readQuoted? (text : List Char) : Option (String × List Char) := do
  let text ← literal? ['"'] text
  let (content, rest) ← upTo? '"' text
  return (.ofList content, rest)

def readEntries? : List (List Char) → Option (List String)
  | [] => none
  | line :: lines => do
      let (name, rest) ← readQuoted? line
      if rest = [','] then
        let names ← readEntries? lines
        return name :: names
      else if rest = [] ∧ lines = closingLines then return [name]
      else none

def readSet? (lines : List (List Char)) : Option (List String) :=
  if lines = [] :: closingLines then some [] else readEntries? lines

def readDefinition? (line : List Char) : Option String := do
  let text ← literal? definitionWords line
  let (wrapperPrefix, rest) ← readQuoted? text
  if rest = [] then return wrapperPrefix else none

def readCompiler? (text : List Char) : Option (String × List String) :=
  match text.splitOn '\n' with
  | first :: second :: third :: fourth :: definition :: set :: brace :: lines => do
      let wrapperPrefix ← readDefinition? definition
      let names ← readSet? lines
      if [first, second, third, fourth] = openingLines ∧ [set, brace] = setLines then
        return (wrapperPrefix, names)
      else none
  | _ => none

theorem readQuoted?_append {name : String} (hidentifier : isIdentifier name)
    (rest : List Char) : readQuoted? (quotedLine name ++ rest) = some (name, rest) := by
  have hquote : '"' ∉ name.toList :=
    not_mem_of_isIdentifier hidentifier (by decide)
  have hline : quotedLine name ++ rest = ['"'] ++ (name.toList ++ '"' :: rest) := by
    simp [quotedLine]
  unfold readQuoted?
  rw [hline, literal?_append, Option.bind_eq_bind, Option.bind_some,
    upTo?_append _ hquote]
  simp

theorem readQuoted?_quotedLine {name : String} (hidentifier : isIdentifier name) :
    readQuoted? (quotedLine name) = some (name, []) := by
  simpa using readQuoted?_append hidentifier []

theorem readEntries?_entryLines {names : List String} (hne : names ≠ [])
    (hidentifiers : ∀ name ∈ names, isIdentifier name) :
    readEntries? (entryLines names ++ closingLines) = some names := by
  induction names with
  | nil => exact absurd rfl hne
  | cons name names ih =>
      have hname := hidentifiers name List.mem_cons_self
      cases names with
      | nil =>
          rw [entryLines, List.singleton_append, readEntries?, readQuoted?_quotedLine hname]
          simp
      | cons next names =>
          have hrest := ih (by simp) fun other hmem =>
            hidentifiers other (List.mem_cons_of_mem _ hmem)
          rw [entryLines, List.cons_append, readEntries?, readQuoted?_append hname, hrest]
          simp

theorem readSet?_entryLines {names : List String}
    (hidentifiers : ∀ name ∈ names, isIdentifier name) :
    readSet? (entryLines names ++ closingLines) = some names := by
  cases hnames : names with
  | nil => simp [readSet?, entryLines]
  | cons name rest =>
      rw [← hnames]
      have hfilled : entryLines names ++ closingLines ≠ [] :: closingLines := by
        rw [hnames]
        cases rest <;> simp [entryLines, quotedLine]
      rw [readSet?, if_neg hfilled]
      exact readEntries?_entryLines (by simp [hnames]) hidentifiers

theorem readDefinition?_quotedLine {wrapperPrefix : String}
    (hidentifier : isIdentifier wrapperPrefix) :
    readDefinition? (definitionWords ++ quotedLine wrapperPrefix) = some wrapperPrefix := by
  unfold readDefinition?
  rw [literal?_append, Option.bind_eq_bind, Option.bind_some,
    readQuoted?_quotedLine hidentifier]
  simp

theorem readCompiler?_compilerText {wrapperPrefix : String} {names : List String}
    (hidentifier : isIdentifier wrapperPrefix)
    (hidentifiers : ∀ name ∈ names, isIdentifier name) :
    readCompiler? (compilerText wrapperPrefix names).toList = some (wrapperPrefix, names) := by
  unfold readCompiler?
  rw [compilerText_splitOn hidentifier hidentifiers]
  simp only [openingLines, openingTexts, setLines, setTexts, List.map_cons, List.map_nil,
    List.cons_append, List.nil_append,
    readDefinition?_quotedLine hidentifier, readSet?_entryLines hidentifiers, and_self, if_true,
    Option.bind_eq_bind, Option.pure_def, Option.bind_some]

end BuiltinWrappers
