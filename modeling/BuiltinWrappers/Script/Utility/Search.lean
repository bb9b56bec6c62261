import BuiltinWrappers.Script.Utility.Files
import BuiltinWrappers.Text.Regex.Syntax

/-!
# Searching for lines

The lines of files that match one of several expressions, or their parts that
do, with the names and numbers that were asked for.
-/

namespace BuiltinWrappers.Script

open Text (Octets Regex Grammar)
open Job

/-! ## What is searched for -/

structure Search where
  options : Options
  expressions : List Regex

namespace Search

def ignoreCase (search : Search) : Bool := search.options.hasAny "iy"

def isWordOctet (octet : Char) : Bool := Text.Place.isWordCharacter octet

def standsAlone (search : Search) (line : Octets) (found : Regex.Found) : Bool :=
  !search.options.has 'w' ||
    (!((line.take found.start).getLast?.any isWordOctet) &&
      !(found.stop.rest.head?.any isWordOctet))

def firstMatch? (search : Search) (line : Octets) : (fuel : Nat) → Text.Place →
    Option Regex.Found
  | 0, _ => none
  | fuel + 1, place =>
      let found := search.expressions.filterMap fun expression =>
        expression.search search.ignoreCase place
      let best := found.foldl (fun (best : Option Regex.Found) candidate =>
        match best with
        | none => some candidate
        | some other =>
            if candidate.start < other.start ∨
                (candidate.start = other.start ∧ other.length < candidate.length) then
              some candidate
            else best) none
      match best with
      | none => none
      | some found =>
          if search.standsAlone line found then some found
          else
            match line.drop found.start with
            | [] => none
            | previous :: rest =>
                firstMatch? search line fuel
                  { position := found.start + 1, previous := some previous, rest }

def first? (search : Search) (line : Octets) : Option Regex.Found :=
  search.firstMatch? line (line.length + 2) { rest := line }

def coversLine (search : Search) (line : Octets) : Bool :=
  search.expressions.any fun expression =>
    let whole : Regex := .sequence .textStart (.sequence expression .textEnd)
    whole.occursIn search.ignoreCase line

def selects (search : Search) (line : Octets) : Bool :=
  let matching := if search.options.has 'x' then search.coversLine line
    else (search.first? line).isSome
  matching != search.options.has 'v'

def parts (search : Search) (line : Octets) : (fuel : Nat) → Text.Place → List Octets
  | 0, _ => []
  | fuel + 1, place =>
      match search.firstMatch? line (line.length + 2) place with
      | none => []
      | some found =>
          let text := (line.drop found.start).take found.length
          if found.length = 0 then
            match found.stop.next? with
            | some (_, next) => parts search line fuel next
            | none => []
          else text :: parts search line fuel found.stop

end Search

/-! ## What is shown -/

def lineFront (options : Options) (name : Option Octets) (number : Nat) (sign : Char) : Octets :=
  (name.map (· ++ [sign])).getD [] ++
    if options.has 'n' then Text.decimalText number ++ [sign] else []

def contextCount (options : Options) (letter : Char) : Nat :=
  ((options.value? letter <|> options.value? 'C').map (Text.ofDigits 10)).getD 0

def shownLines (search : Search) (name : Option Octets) (lines : List Octets)
    (selected : List Nat) : List Octets :=
  let options := search.options
  let before := contextCount options 'B'
  let after := contextCount options 'A'
  let near (number : Nat) : Bool :=
    selected.any fun chosen => chosen ≤ number + before && number ≤ chosen + after
  let (_, shown) := (lines.zipIdx 1).foldl (fun (last, shown) (line, number) =>
    if !near number then (last, shown)
    else
      let gap := if (before ≠ 0 ∨ after ≠ 0) ∧ last ≠ 0 ∧ last + 1 < number then
          [['-', '-']] else []
      let isSelected := selected.contains number
      let sign := if isSelected then ':' else '-'
      let front := lineFront options name number sign
      let texts :=
        if !options.has 'o' then [front ++ line]
        else if isSelected ∧ !options.has 'v' then
          (search.parts line (line.length + 1) { rest := line }).map (front ++ ·)
        else []
      (number, texts.reverse ++ gap ++ shown)) (0, [])
  shown.reverse

/-- Search one file; the answer tells whether any line was selected. -/
def searchFile (search : Search) (name : Option Octets) (path : Octets) (text : Octets) :
    Job Bool := do
  let options := search.options
  let lines := linesOf text
  let selected := (lines.zipIdx 1).filterMap fun (line, number) =>
    if search.selects line then some number else none
  let selected :=
    match options.value? 'm' with
    | some count => selected.take (Text.ofDigits 10 count)
    | none => selected
  let shownName := if path = ['-'] then "(standard input)".toList else path
  if options.has 'q' then pure ()
  else if options.has 'l' then if !selected.isEmpty then printLine shownName
  else if options.has 'L' then if selected.isEmpty then printLine shownName
  else if options.has 'c' then
    printLine ((name.map (· ++ [':'])).getD [] ++ Text.decimalText selected.length)
  else print (unlines (shownLines search name lines selected))
  return !selected.isEmpty

/-! ## The utility -/

def searchOptions : OptionSet where
  flags := "EFGPivyncqslLowxhHrRazUT"
  valued := "efmABC+-/"
  long := [("extended-regexp", 'E'), ("fixed-strings", 'F'), ("basic-regexp", 'G'),
    ("ignore-case", 'i'), ("invert-match", 'v'), ("line-number", 'n'), ("count", 'c'),
    ("quiet", 'q'), ("silent", 'q'), ("no-messages", 's'), ("files-with-matches", 'l'),
    ("files-without-match", 'L'), ("only-matching", 'o'), ("word-regexp", 'w'),
    ("line-regexp", 'x'), ("no-filename", 'h'), ("with-filename", 'H'), ("recursive", 'r'),
    ("regexp", 'e'), ("file", 'f'), ("max-count", 'm'), ("after-context", 'A'),
    ("before-context", 'B'), ("context", 'C'), ("include", '+'), ("exclude", '-'),
    ("exclude-dir", '/'), ("color", 'y'), ("colour", 'y')]

def matchesAny (patterns : List Octets) (name : Octets) : Bool :=
  patterns.any fun pattern =>
    (Text.Pattern.ofGlyphs (Text.activeGlyphs pattern)).matchesText name

def isWanted (options : Options) (names : List Octets) : Bool :=
  let name := names.getLastD []
  let included := options.values '+'
  (included.isEmpty || matchesAny included name) && !matchesAny (options.values '-') name &&
    !names.dropLast.any (matchesAny (options.values '/'))

/--
The files to search: those that are named, and those below the directories named,
where no name at all stands for the working directory.
-/
def filesToSearch (options : Options) (paths : List Octets) : Job (List Octets) := do
  if !options.hasAny "rR" then return paths
  let tree := (← host).tree
  let found ← paths.mapM fun path => do
    match ← locate (if path.isEmpty then ['.'] else path) with
    | .ok (location, some (.directory _)) =>
        return (tree.below location).filterMap fun (place, node) =>
          match node with
          | .file _ _ =>
              let names := (place.drop location.length).map Octets.ofString
              if isWanted options names then
                let inner := ['/'].intercalate names
                some (if path.isEmpty then inner else within path inner)
              else none
          | .directory _ | .link _ => none
    | _ => return [path]
  return found.flatten

def expressionOf? (options : Options) (extended : Bool) (text : Octets) : Option Regex :=
  if options.has 'F' then some (Regex.literal text)
  else
    Regex.parse? (if extended ∨ options.hasAny "EP" then .extended else .basic) text

def grepAs (extended fixed : Bool) : Utility := fun arguments => do
  let options ← optionsOr 2 searchOptions arguments
  let options := if fixed then { options with given := ('F', []) :: options.given } else options
  let fromFiles ← (options.values 'f').mapM fun path => return linesOf (← readAll [path])
  let given := (options.values 'e').flatMap (fun text => text.splitOn '\n') ++ fromFiles.flatten
  let (texts, paths) :=
    if options.has 'e' ∨ options.has 'f' then (given, options.operands)
    else ((options.operands.headD []).splitOn '\n', options.operands.tail)
  if !(options.has 'e' ∨ options.has 'f') ∧ options.operands.isEmpty then
    complainPlainly "Usage: grep [OPTION]... PATTERNS [FILE]...".toList
    complainPlainly "Try 'grep --help' for more information.".toList
    setStatus 2
    stop
  match texts.mapM (expressionOf? options extended) with
  | none => abort 2 "Invalid regular expression".toList
  | some expressions =>
      let search : Search := ⟨options, expressions⟩
      let paths := if paths.isEmpty then (if options.hasAny "rR" then [[]] else [['-']])
        else paths
      let files ← filesToSearch options paths
      let named := options.has 'H' ||
        (!options.has 'h' && (1 < paths.length || options.hasAny "rR"))
      let (selected, faulty) ← files.foldlM (fun (selected, faulty) path => do
        match ← read path with
        | .error fault =>
            if !options.has 's' then
              complain (path ++ ": ".toList ++ wording fault)
            return (selected, true)
        | .ok text =>
            let name := if named then
                some (if path = ['-'] then "(standard input)".toList else path)
              else none
            let hit ← searchFile search name path text
            return (selected || hit, faulty)) (false, false)
      setStatus (if faulty ∧ !(selected ∧ options.has 'q') then 2 else if selected then 0 else 1)

def grep : Utility := grepAs false false

end BuiltinWrappers.Script
