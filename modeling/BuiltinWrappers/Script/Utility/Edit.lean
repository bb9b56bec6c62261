import BuiltinWrappers.Script.Utility.Edit.Syntax

/-!
# Editing streams

A list of editing commands is applied to each line of the input.  The line is
held in a pattern space, which is printed at the end of the list, and a hold
space keeps a text from one line to the next.
-/

namespace BuiltinWrappers.Script

namespace Edit

open Text (Octets Regex Grammar)

/-! ## The course of an edit -/

structure State where
  lines : List Octets
  delimiter : Char := '\n'
  number : Nat := 0
  pattern : Octets := []
  ended : Bool := true
  held : Octets := []
  substituted : Bool := false
  lastRegex : Option Regex := none
  ranges : List (Nat × Option Nat) := []
  queue : List Octets := []
  output : List Octets := []
  owesLineEnd : Bool := false
  written : List (Octets × Octets) := []

namespace State

def emit (state : State) (text : Octets) : State :=
  { state with
    output :=
      text :: (if state.owesLineEnd then [state.delimiter] :: state.output else state.output)
    owesLineEnd := false }

def emitLine (state : State) (text : Octets) : State :=
  if state.ended then state.emit (text ++ [state.delimiter])
  else { state.emit text with owesLineEnd := true }

def emitQueue (state : State) : State :=
  { state.queue.reverse.foldl emit state with queue := [] }

def isLast (state : State) : Bool := state.lines.isEmpty

def take? (state : State) : Option (Octets × State) :=
  match state.lines with
  | [] => none
  | line :: lines =>
      let ended := line.getLast? = some state.delimiter
      some (if ended then line.dropLast else line,
        { state with lines, ended, number := state.number + 1 })

def write (state : State) (path text : Octets) : State :=
  if path = "/dev/stdout".toList then state.emit text
  else
    let before := (state.written.lookup path).getD []
    { state with written := (path, before ++ text) :: state.written.filter (·.1 ≠ path) }

def outputText (state : State) : Octets := state.output.reverse.flatten

/-! ## Addresses -/

def occurs (state : State) (regex : Option Regex) (ignoreCase : Bool) : Bool × State :=
  match regex <|> state.lastRegex with
  | none => (false, state)
  | some regex =>
      (regex.occursIn ignoreCase state.pattern, { state with lastRegex := some regex })

def holds (state : State) : Address → Bool × State
  | .line number => (state.number = number, state)
  | .lastLine => (state.isLast, state)
  | .matching regex ignoreCase => state.occurs regex ignoreCase
  | .every first step =>
      (if step = 0 then state.number = first
        else first ≤ state.number && (state.number - first) % step = 0, state)

def setRange (state : State) (index : Nat) (last : Option (Option Nat)) : State :=
  let others := state.ranges.filter (·.1 ≠ index)
  match last with
  | none => { state with ranges := others }
  | some last => { state with ranges := (index, last) :: others }

/-- Begin a range at the current line, unless it ends there at once. -/
def beginRange (state : State) (index : Nat) (last : RangeEnd) : State :=
  let toLine (line : Nat) : State :=
    if line ≤ state.number then state else state.setRange index (some (some line))
  match last with
  | .address (.line number) => toLine number
  | .address .lastLine => if state.isLast then state else state.setRange index (some none)
  | .address _ => state.setRange index (some none)
  | .after count => toLine (state.number + count)
  | .multiple factor =>
      if factor = 0 then state else toLine ((state.number + factor - 1) / factor * factor)

def continueRange (state : State) (index : Nat) (last : RangeEnd) (line : Option Nat) :
    Bool × State :=
  match last, line with
  | _, some line =>
      (state.number ≤ line,
        if line ≤ state.number then state.setRange index none else state)
  | .address address, none =>
      let (holds, state) := state.holds address
      (true, if holds then state.setRange index none else state)
  | _, none => (true, state)

/-- Whether the first address begins a range anew; a range from line zero is open at once. -/
def startsRange (state : State) (index : Nat) (first : Address) (last : RangeEnd) :
    Bool × State :=
  match first, last with
  | .line 0, .address (.matching regex ignoreCase) =>
      if state.number = 1 then
        let (holds, state) := state.occurs regex ignoreCase
        (true, if holds then state else state.setRange index (some none))
      else (false, state)
  | first, last =>
      let (begins, state) := state.holds first
      if begins then (true, state.beginRange index last) else (false, state)

def selects (state : State) (index : Nat) (selector : Selector) : Bool × State :=
  let (chosen, state) : Bool × State :=
    match selector.first, selector.last with
    | none, _ => (true, state)
    | some first, none => state.holds first
    | some first, some last =>
        match state.ranges.lookup index with
        | some line => state.continueRange index last line
        | none => state.startsRange index first last
  (chosen != selector.negated, state)

/-! ## Substitution -/

def inMode (mode once : CaseMode) (text : Octets) : Octets :=
  let text :=
    match mode with
    | .upper => text.map Char.toUpper
    | .lower => text.map Char.toLower
    | _ => text
  match once, text with
  | .upperOne, first :: rest => first.toUpper :: rest
  | .lowerOne, first :: rest => first.toLower :: rest
  | _, text => text

def replaced (group : Nat → Octets) (mode once : CaseMode) : List ReplacementPart → Octets
  | [] => []
  | .mode new :: parts =>
      if new = .upperOne ∨ new = .lowerOne then replaced group mode new parts
      else replaced group new .asIs parts
  | .text text :: parts => inMode mode once text ++ replaced group mode .asIs parts
  | .group index :: parts =>
      let text := group index
      inMode mode once text ++ replaced group mode (if text.isEmpty then once else .asIs) parts

/--
The pattern space with the chosen matches replaced, and whether any was.  `count`
is the number of the next match; an empty match right behind another one is none.
-/
def exchangeMatches (substitution : Substitution) (regex : Regex) :
    (fuel count : Nat) → (afterMatch : Bool) → Text.Place → Bool × Octets
  | 0, _, _, place => (false, place.rest)
  | fuel + 1, count, afterMatch, place =>
      match regex.search substitution.ignoreCase { place with groups := [] } with
      | none => (false, place.rest)
      | some found =>
          let skipped := place.rest.take (found.start - place.position)
          let text := (place.rest.drop skipped.length).take found.length
          let isVoid := found.length = 0
          if isVoid ∧ afterMatch ∧ skipped.isEmpty then
            match place.next? with
            | none => (false, [])
            | some (character, next) =>
                let (any, rest) :=
                  exchangeMatches substitution regex fuel count false next
                (any, character :: rest)
          else
            let chosen := count = substitution.number ∨
              (substitution.everywhere ∧ substitution.number < count)
            let group (index : Nat) : Octets :=
              if index = 0 then text else (found.stop.groups.lookup index).getD []
            let shown :=
              if chosen then replaced group .asIs .asIs substitution.replacement else text
            if chosen ∧ ¬substitution.everywhere then
              (true, skipped ++ shown ++ found.stop.rest)
            else if isVoid then
              match found.stop.next? with
              | none => (chosen, skipped ++ shown)
              | some (character, next) =>
                  let (any, rest) :=
                    exchangeMatches substitution regex fuel (count + 1) false next
                  (chosen || any, skipped ++ shown ++ character :: rest)
            else
              let (any, rest) :=
                exchangeMatches substitution regex fuel (count + 1) true found.stop
              (chosen || any, skipped ++ shown ++ rest)

def substitute (state : State) (substitution : Substitution) : State :=
  match substitution.regex <|> state.lastRegex with
  | none => state
  | some regex =>
      let state := { state with lastRegex := some regex }
      let fuel := 2 * state.pattern.length + 2
      match exchangeMatches substitution regex fuel 1 false { rest := state.pattern } with
      | (false, _) => state
      | (true, pattern) =>
          let state := { state with pattern, substituted := true }
          let state := if substitution.print then state.emitLine pattern else state
          match substitution.target with
          | none => state
          | some path => state.write path (pattern ++ ['\n'])

end State

/-! ## Actions -/

inductive After where
  | go (position : Nat)
  | endCycle (printing : Bool)
  | restart
  | quit (status : Nat) (printing : Bool)

structure Setting where
  silent : Bool := false
  delimiter : Char := '\n'
  fileName : Octets := ['-']
  fileText : Octets → Octets

def afterBlock : (depth position : Nat) → List Command → Nat
  | _, position, [] => position
  | depth, position, command :: rest =>
      match command.action, depth with
      | .opening, depth => afterBlock (depth + 1) (position + 1) rest
      | .closing, 0 => position + 1
      | .closing, depth + 1 => afterBlock depth (position + 1) rest
      | _, depth => afterBlock depth (position + 1) rest

def labelPosition (program : List Command) (name : Octets) : Nat :=
  if name.isEmpty then program.length
  else
    program.findIdx fun command =>
      match command.action with
      | .label other => other = name
      | _ => false

def octalThree (code : Nat) : Octets :=
  [code / 64, code / 8 % 8, code % 8].map fun digit => Char.ofNat ('0'.toNat + digit)

def revealed (character : Char) : Octets :=
  match character with
  | '\\' => ['\\', '\\']
  | '\x07' => ['\\', 'a']
  | '\x08' => ['\\', 'b']
  | '\x0c' => ['\\', 'f']
  | '\n' => ['\\', 'n']
  | '\r' => ['\\', 'r']
  | '\t' => ['\\', 't']
  | '\x0b' => ['\\', 'v']
  | character =>
      if ' ' ≤ character ∧ character ≤ '~' then [character]
      else '\\' :: octalThree character.toNat

def revealedWidth : Nat := 69

def revealedText (text : Octets) : Octets :=
  let step (line : Octets × Nat) (shown : Octets) : Octets × Nat :=
    if revealedWidth < line.2 + shown.length then
      (line.1 ++ ['\\', '\n'] ++ shown, shown.length)
    else (line.1 ++ shown, line.2 + shown.length)
  ((text.map revealed).foldl step ([], 0)).1 ++ ['$', '\n']

def firstLine (text : Octets) : Octets := text.takeWhile (· ≠ '\n')

def fetch (state : State) (next : Nat) (join : Octets → Octets) : State × After :=
  match state.take? with
  | none => (state, .quit 0 true)
  | some (line, state) =>
      ({ state.emitQueue with pattern := join line }, .go next)

def perform (setting : Setting) (program : List Command) (state : State) (position : Nat)
    (range : Option RangeEnd) (action : Action) : State × After :=
  let next := position + 1
  let plain (state : State) : State × After := (state, .go next)
  let jump (condition : Bool) (name : Octets) (state : State) : State × After :=
    (state, .go (if condition then labelPosition program name else next))
  match action with
  | .opening | .closing | .label _ => plain state
  | .substitute substitution => plain (state.substitute substitution)
  | .exchange source target =>
      plain { state with
        pattern := state.pattern.map fun character =>
          ((source.zip target).lookup character).getD character }
  | .delete => (state, .endCycle false)
  | .deleteFirst =>
      if state.pattern.contains '\n' then
        ({ state with pattern := state.pattern.drop ((firstLine state.pattern).length + 1) },
          .restart)
      else (state, .endCycle false)
  | .print => plain (state.emitLine state.pattern)
  | .printFirst => plain (state.emit (firstLine state.pattern ++ ['\n']))
  | .next =>
      if state.isLast then (state, .quit 0 true)
      else
        let shown := if setting.silent then state else state.emitLine state.pattern
        fetch shown next id
  | .appendNext =>
      let pattern := state.pattern
      fetch state next fun line => pattern ++ state.delimiter :: line
  | .hold => plain { state with held := state.pattern }
  | .appendHold => plain { state with held := state.held ++ state.delimiter :: state.pattern }
  | .get => plain { state with pattern := state.held }
  | .appendGet => plain { state with pattern := state.pattern ++ state.delimiter :: state.held }
  | .swap => plain { state with pattern := state.held, held := state.pattern }
  | .append text => plain { state with queue := text :: state.queue }
  | .insert text => plain (state.emit text)
  | .change text =>
      let within := range.isSome && (state.ranges.lookup position).isSome
      (if within then state else state.emit text, .endCycle false)
  | .quit status => (state, .quit status true)
  | .leave status => ({ state with queue := [] }, .quit status false)
  | .lineNumber => plain (state.emit (Text.decimalText state.number ++ ['\n']))
  | .fileName => plain (state.emit (setting.fileName ++ ['\n']))
  | .reveal => plain (state.emit (revealedText state.pattern))
  | .clear => plain { state with pattern := [] }
  | .read path => plain { state with queue := setting.fileText path :: state.queue }
  | .write path => plain (state.write path (state.pattern ++ ['\n']))
  | .branch name => jump true name state
  | .branchIf name => jump state.substituted name { state with substituted := false }
  | .branchUnless name => jump (!state.substituted) name { state with substituted := false }

/-- Run the commands from a position until something else than the next one is due. -/
def runFrom (setting : Setting) (program : List Command) :
    (fuel : Nat) → State → (position : Nat) → State × After
  | 0, state, _ => (state, .quit 1 false)
  | fuel + 1, state, position =>
      match program.drop position with
      | [] => (state, .endCycle true)
      | command :: rest =>
          let (chosen, state) := state.selects position command.selector
          if chosen then
            match perform setting program state position command.selector.last
                command.action with
            | (state, .go next) => runFrom setting program fuel state next
            | outcome => outcome
          else
            match command.action with
            | .opening => runFrom setting program fuel state (afterBlock 0 (position + 1) rest)
            | _ => runFrom setting program fuel state (position + 1)

def stepLimit : Nat := 200000

/-- Run the commands on line after line; the status with which they quit, if they do. -/
def runLines (setting : Setting) (program : List Command) :
    (fuel : Nat) → (fresh : Bool) → State → State × Option Nat
  | 0, _, state => (state, some 1)
  | fuel + 1, fresh, state =>
      match if fresh then state.take? else some (state.pattern, state) with
      | none => (state, none)
      | some (pattern, state) =>
          let state := { state with pattern, substituted := !fresh && state.substituted }
          let close (printing : Bool) (state : State) : State :=
            let shown :=
              if printing && !setting.silent then state.emitLine state.pattern else state
            shown.emitQueue
          match runFrom setting program stepLimit state 0 with
          | (state, .go _) => (state, some 1)
          | (state, .endCycle printing) =>
              runLines setting program fuel true (close printing state)
          | (state, .restart) => runLines setting program fuel false state.emitQueue
          | (state, .quit status printing) => (close printing state, some status)

/-! ## The command -/

/-- Spell an in-place option out, as the rest of its word is a suffix. -/
def spellInPlace (word : Octets) : List Octets :=
  match word with
  | '-' :: letters =>
      let front := letters.takeWhile fun letter => ['n', 'E', 'r', 's', 'u', 'z'].contains letter
      match letters.drop front.length with
      | 'i' :: suffix =>
          (if front.isEmpty then [] else ['-' :: front]) ++
            ["--in-place".toList ++ (if suffix.isEmpty then [] else '=' :: suffix)]
      | _ => [word]
  | word => [word]

def optionSet : OptionSet where
  flags := "nErsuz"
  valued := "efl"
  long := [("expression", 'e'), ("file", 'f'), ("quiet", 'n'), ("silent", 'n'),
    ("regexp-extended", 'E'), ("in-place", 'i'), ("separate", 's'), ("unbuffered", 'u'),
    ("null-data", 'z'), ("posix", 'p'), ("debug", 'u'), ("line-length", 'l')]

def backupPath (suffix path : Octets) : Octets :=
  if suffix.contains '*' then
    let directory := (path.reverse.dropWhile (· ≠ '/')).reverse
    let name := path.drop directory.length
    directory ++ suffix.flatMap fun character => if character = '*' then name else [character]
  else path ++ suffix

def writtenPaths (program : List Command) : List Octets :=
  program.filterMap fun command =>
    match command.action with
    | .write path => some path
    | .substitute substitution => substitution.target
    | _ => none

def storeWritten (state : State) : Job PUnit :=
  state.written.forM fun (path, text) => do
    let _ ← Job.write path text

def fileText (host : Host) (path : Octets) : Octets :=
  match host.locate path.toString with
  | .ok (_, some (.file content _)) => Octets.ofBytes content
  | _ => []

/-- Edit one file and put what comes out in its place. -/
def editFile (setting : Setting) (program : List Command) (suffix path : Octets) :
    Job PUnit := do
  let entry? := ((← Job.locateEntry path).toOption).map Prod.fst
  match ← Job.locate path with
  | .ok (location, some (.file content mode)) =>
      let lines := partsEndingIn setting.delimiter (Octets.ofBytes content)
      let setting := { setting with fileName := path }
      let (state, quit) :=
        runLines setting program stepLimit true { lines, delimiter := setting.delimiter }
      if !suffix.isEmpty then
        let _ ← Job.write (backupPath suffix path) (Octets.ofBytes content)
      let location := entry?.getD location
      let host := (← Job.host).forgetBelow location
      let edited := Octets.toBytes state.outputText
      Job.setHost { host with tree := host.tree.set location (.file edited mode) }
      storeWritten state
      if let some status := quit then
        Job.setStatus status
        Job.stop
  | .ok (_, some _) =>
      Job.complain ("couldn't edit ".toList ++ path ++ ": not a regular file".toList)
      Job.failWith 4
  | .ok (_, none) =>
      Job.complain ("can't read ".toList ++ path ++ ": No such file or directory".toList)
      Job.failWith 2
  | .error fault =>
      Job.complain ("can't read ".toList ++ path ++ ": ".toList ++ Job.wording fault)
      Job.failWith 2

def linesOfFiles (delimiter : Char) (paths : List Octets) : Job (List Octets) := do
  let lines ← paths.mapM fun path => do
    match ← Job.read path with
    | .ok content => return partsEndingIn delimiter content
    | .error fault =>
        Job.complain ("can't read ".toList ++ path ++ ": ".toList ++ Job.wording fault)
        Job.failWith (if fault = .isDirectory then 4 else 2)
        return []
  return lines.flatten

def editStream (setting : Setting) (program : List Command) (paths : List Octets) :
    Job PUnit := do
  let lines ← linesOfFiles setting.delimiter paths
  let (state, quit) :=
    runLines setting program stepLimit true { lines, delimiter := setting.delimiter }
  Job.print state.outputText
  storeWritten state
  if let some status := quit then
    if status ≠ 0 then Job.setStatus status

def scriptText (options : Options) : Job (Octets × List Octets) := do
  let parts ← options.given.filterMapM fun (letter, value) => do
    if letter = 'e' then return some value
    else if letter = 'f' then
      match ← Job.read value with
      | .ok text => return some (if text.getLast? = some '\n' then text.dropLast else text)
      | .error fault =>
          Job.abort 1 ("couldn't open file ".toList ++ value ++ ": ".toList ++
            Job.wording fault)
    else return none
  match parts, options.operands with
  | [], [] => Job.abort 1 "no script specified".toList
  | [], script :: paths => return (script, paths)
  | parts, paths => return (List.intercalate ['\n'] parts, paths)

def silencing (script : Octets) : Bool := firstLine script = "#n".toList

end Edit

open Edit Text in
def sed : Utility := fun arguments => do
  let options ← Job.optionsOr 1 Edit.optionSet (arguments.flatMap spellInPlace)
  let (script, paths) ← scriptText options
  let grammar : Grammar := if options.hasAny "Er" then .extended else .basic
  match parse? grammar script with
  | none => Job.abort 1 ("-e expression #1, char ".toList ++
      Text.decimalText script.length ++ ": unknown command".toList)
  | some program =>
      (writtenPaths program).forM fun path => do
        let _ ← Job.write path []
      let host ← Job.host
      let setting : Setting :=
        { silent := options.has 'n' || silencing script
          delimiter := if options.has 'z' then '\x00' else '\n'
          fileText := fileText host }
      let paths := if paths.isEmpty then [['-']] else paths
      if options.has 'i' then
        paths.forM (editFile setting program ((options.value? 'i').getD []))
      else if options.has 's' then
        paths.forM fun path => editStream { setting with fileName := path } program [path]
      else editStream setting program paths

end BuiltinWrappers.Script
