import BuiltinWrappers.Script.Control

/-!
# Evaluation

Items are run pipeline by pipeline, and pipelines command by command.  Each
construct runs the items within it by a runner that is given from outside, which
may go less deep than its own; the depth bounds how far constructs, functions and
substitutions can stand within each other.
-/

namespace BuiltinWrappers.Script

open Text (Octets)

namespace Evaluation

/-! ## Faults that end a script -/

def tested (act : Act Unit) : Act Unit := do
  let before := (← Act.shell).tested
  Act.changeShell fun shell => { shell with tested := true }
  Act.finally_ act (Act.changeShell fun shell => { shell with tested := before })

def checkFailure (run : Runner) : Act Unit := do
  let shell ← Act.shell
  if shell.status ≠ 0 ∧ !shell.tested then
    if let some text := shell.traps.lookup "ERR".toList then
      dropTrap "ERR".toList
      runText run text
      Act.changeShell fun after =>
        { after with traps := ("ERR".toList, text) :: after.traps, status := shell.status }
    if shell.modes.errorsEnd then throw .leave

/-! ## Functions -/

def unhide (frame : List (Octets × Option Variable)) (bindings : List (Octets × Variable)) :
    List (Octets × Variable) :=
  frame.foldl (fun bindings (name, before) =>
    let others := bindings.filter (·.1 ≠ name)
    match before with
    | some variableAt => (name, variableAt) :: others
    | none => others) bindings

def callFunction (run : Runner) (name : Octets) (body : Command) (arguments : List Octets) :
    Act Unit := do
  let before ← Act.shell
  Act.changeShell fun shell =>
    { shell with
      arguments
      calls := shell.calls + 1
      callNames := name :: shell.callNames
      loops := 0
      hidden := [] :: shell.hidden }
  Act.finally_
    (do
      try run [.ofCommand body]
      catch escape => if escape ≠ .leaveFunction then throw escape)
    (Act.changeShell fun shell =>
      { shell with
        arguments := before.arguments
        calls := before.calls
        callNames := before.callNames
        loops := before.loops
        hidden := before.hidden
        bindings := unhide (shell.hidden.headD []) shell.bindings })

/-! ## Simple commands -/

def dispatch (run : Runner) : (fuel : Nat) → Control.Dispatcher
  | 0, _, _ => throw .exhausted
  | _ + 1, _, [] => Act.setStatus 0
  | fuel + 1, functions, name :: arguments => do
      let shell ← Act.shell
      let word := String.ofList name
      let own : Option (List Octets → Act Unit) :=
        Control.control? run (dispatch run fuel) shell.dialect word <|>
          OwnCommand.simple? shell.dialect word
      let special := OwnCommand.specialNames.contains word && shell.dialect = .plain
      match if functions ∧ !special then shell.functions.lookup name else none, own with
      | some body, _ => callFunction run name body arguments
      | none, some act => act arguments
      | none, none => Launch.launch run Launch.deepest (name :: arguments)

def deepestDispatch : Nat := 30

def declaringNames : List String :=
  ["export", "readonly", "local", "declare", "typeset"]

def assignmentWord? (word : Word) : Option (Octets × Word) :=
  match word with
  | .text text false :: rest =>
      let name := text.takeWhile isNameCharacter
      match text.drop name.length with
      | '=' :: value => if isName name then some (name, .text value false :: rest) else none
      | _ => none
  | _ => none

/-- The fields of a command; what a declaring command assigns is not cut into fields. -/
def commandFields (run : Runner) (words : List Word) : Act (List Octets) := do
  match words with
  | [] => return []
  | first :: others => do
      let name ← Expansion.fields run [first]
      let declares := name.length = 1 && declaringNames.contains (String.ofList name.flatten)
      let found ← others.mapM fun word => do
        match if declares then assignmentWord? word else none with
        | some (variableName, value) =>
            return [variableName ++ '=' :: (← Expansion.assignedText run value)]
        | none => Expansion.fields run [word]
      return name ++ found.flatten

def assignedName : Assignment → Octets
  | .one name _ _ _ => name
  | .list name _ _ => name

def withAssignments (run : Runner) (assignments : List Assignment) (act : Act Unit) :
    Act Unit := do
  let names := assignments.map assignedName
  let before := (← Act.shell).bindings
  assignments.forM fun assignment => do
    Expansion.assign run assignment
    let name := assignedName assignment
    let variableAt := (← Act.variableNamed? name).getD {}
    Act.putVariable name { variableAt with exported := true }
  Act.finally_ act do
    Act.changeShell fun shell =>
      { shell with
        bindings := unhide (names.map fun name => (name, before.lookup name)) shell.bindings }

def trace (words : List Octets) : Act Unit := do
  if (← Act.shell).modes.traces ∧ words ≠ [] then
    let _ ← Act.write 2 ("+ ".toList ++ [' '].intercalate words ++ ['\n'])

def runWords (run : Runner) (assignments : List Assignment) (words : List Octets) :
    Act Unit := do
  let shell ← Act.shell
  let name := String.ofList (words.headD [])
  let act := dispatch run deepestDispatch true words
  if assignments.isEmpty then act
  else if OwnCommand.specialNames.contains name ∧ shell.dialect = .plain then
    assignments.forM (Expansion.assign run)
    act
  else withAssignments run assignments act

def redirectedWords (run : Runner) (assignments : List Assignment) (words : List Octets)
    (redirections : List Redirection) : Act Unit := do
  let special := OwnCommand.specialNames.contains (String.ofList (words.headD []))
  if ← applyRedirections run redirections then
    if words.isEmpty then
      assignments.forM (Expansion.assign run)
      Act.setStatus (← Act.shell).substitutionStatus
    else runWords run assignments words
  else if special ∧ (← Act.dialect) = .plain then throw .leave

def simple (run : Runner) (line : Nat) (assignments : List Assignment) (words : List Word)
    (redirections : List Redirection) : Act Unit := do
  Act.changeShell fun shell => { shell with line, substitutionStatus := 0 }
  let descriptors := (← Act.shell).descriptors
  let words ← commandFields run words
  trace words
  if words = ["exec".toList] then
    if ← applyRedirections run redirections then Act.setStatus 0
    else if (← Act.dialect) = .plain then throw .leave
  else
    Act.finally_ (redirectedWords run assignments words redirections)
      (Act.changeShell fun shell => { shell with descriptors })

/-! ## Loops -/

def roundLimit : Nat := 20000

/-- Run the body of a loop once; whether the loop goes on. -/
def oneRound (body : Act Unit) : Act Bool := do
  try
    body
    return true
  catch escape =>
    match escape with
    | .leaveLoops count => if 1 < count then throw (.leaveLoops (count - 1)) else return false
    | .nextRound count => if 1 < count then throw (.nextRound (count - 1)) else return true
    | escape => throw escape

def withinLoop (act : Act Unit) : Act Unit := do
  Act.changeShell fun shell => { shell with loops := shell.loops + 1 }
  Act.finally_ act (Act.changeShell fun shell => { shell with loops := shell.loops - 1 })

/-- Run a body while a condition holds; the status is that of the last body. -/
def whileLoop (condition : Act Bool) (body : Act Unit) : (rounds : Nat) → (status : Nat) →
    Act Unit
  | 0, _ => throw .exhausted
  | rounds + 1, status => do
      if ← condition then
        if ← oneRound body then whileLoop condition body rounds (← Act.status)
      else Act.setStatus status

def conditionLoop (run : Runner) (awaiting : Bool) (condition body : List Item) : Act Unit :=
  withinLoop do
    let holds : Act Bool := do
      tested (run condition)
      return ((← Act.status) = 0) != awaiting
    let goesOn ← oneRound (whileLoop holds (run body) roundLimit 0)
    if goesOn then return

def eachLoop (run : Runner) (name : Octets) (values : List Octets) (body : List Item) :
    Act Unit :=
  withinLoop do
    Act.setStatus 0
    let rec rounds : List Octets → Act Unit
      | [] => return
      | value :: values => do
          Act.setVariable name value
          if ← oneRound (run body) then rounds values
    rounds values

def calculated (run : Runner) (expression : Word) : Act Int := do
  Expansion.calculate (← Expansion.text run expression)

def countingLoop (run : Runner) (start condition step : Word) (body : List Item) : Act Unit :=
  withinLoop do
    let _ ← calculated run start
    let holds : Act Bool := do
      let text ← Expansion.text run condition
      if text.all Cutting.isBlank then return true
      else return (← Expansion.calculate text) ≠ 0
    whileLoop holds (do
      try run body
      catch escape => if escape ≠ .nextRound 1 then throw escape
      let status ← Act.status
      let _ ← calculated run step
      Act.setStatus status) roundLimit 0

/-! ## Choices and conditions -/

def fits (run : Runner) (word : Word) (text : Octets) : Act Bool := do
  if (← Act.shell).modes.ignoresCase then
    let glyphs := (← Expansion.glyphs run word).map fun glyph =>
      { glyph with character := glyph.character.toLower }
    return (Text.Pattern.ofGroupedGlyphs glyphs).matchesText (text.map Char.toLower)
  else return (← Expansion.pattern run word).matchesText text

def anyMatches (run : Runner) (subject : Octets) : List Word → Act Bool
  | [] => return false
  | pattern :: patterns => do
      if ← fits run pattern subject then return true
      else anyMatches run subject patterns

def choose (run : Runner) (subject : Octets) : (forced : Bool) → List Arm → Act Unit
  | _, [] => return
  | forced, .mk patterns body ending :: arms => do
      let chosen ← if forced then pure true else anyMatches run subject patterns
      if chosen then
        run body
        match ending with
        | .leave => return
        | .runNext => choose run subject true arms
        | .tryNext => choose run subject false arms
      else choose run subject false arms

def expressionText (glyphs : List Text.Glyph) : Octets :=
  glyphs.flatMap fun glyph =>
    if glyph.active ∨ isNameCharacter glyph.character then [glyph.character]
    else ['\\', glyph.character]

def matchesExpression (text expression : Octets) : Act Bool := do
  match Text.Regex.parse? .extended expression with
  | none => return false
  | some regex =>
      match regex.search false { rest := text } with
      | none => return false
      | some found =>
          let whole := (text.drop found.start).take found.length
          let groups := (List.range 9).filterMap fun index =>
            (found.stop.groups.lookup (index + 1)).map fun group => (index + 1, group)
          Act.putVariable "BASH_REMATCH".toList
            { values := (0, whole) :: groups, isList := true }
          return true

def compared (run : Runner) (left : Word) (operator : Octets) (right : Word) : Act Bool := do
  let text ← Expansion.text run left
  match String.ofList operator with
  | "=" | "==" =>
      fits run right text
  | "!=" => return !(← fits run right text)
  | "=~" => matchesExpression text (expressionText (← Expansion.glyphs run right))
  | word =>
      if ["-eq", "-ne", "-lt", "-le", "-gt", "-ge"].contains word then
        let left := Text.integerText (← Expansion.calculate text)
        let right := Text.integerText (← calculated run right)
        return (Test.binary (← OwnCommand.testSetting) left operator right).toOption.getD false
      else
        let right ← Expansion.text run right
        return (Test.binary (← OwnCommand.testSetting) text operator right).toOption.getD false

def meets (run : Runner) : Condition → Act Bool
  | .word word => return !(← Expansion.text run word).isEmpty
  | .unary operator word => do
      let text ← Expansion.text run word
      return Test.unary (← OwnCommand.testSetting) (operator.getLastD 'n') text
  | .binary left operator right => compared run left operator right
  | .negation inner => return !(← meets run inner)
  | .both first second => do
      if ← meets run first then meets run second else return false
  | .either first second => do
      if ← meets run first then return true else meets run second

/-! ## Commands -/

def command (run : Runner) : Command → Act Unit
  | .simple line assignments words redirections => do
      simple run line assignments words redirections
      checkFailure run
  | .group body => run body
  | .subshell body => do
      Act.setStatus (← runBelow run (run body))
      checkFailure run
  | .conditional condition body otherwise => do
      tested (run condition)
      if (← Act.status) = 0 then run body
      else if otherwise.isEmpty then Act.setStatus 0
      else run otherwise
  | .loop awaiting condition body => conditionLoop run awaiting condition body
  | .each name words body => do
      let values ←
        match words with
        | some words => Expansion.fields run words
        | none => do pure (← Act.shell).arguments
      eachLoop run name values body
  | .counting start condition step body => countingLoop run start condition step body
  | .choice subject arms => do
      let text ← Expansion.text run subject
      Act.setStatus 0
      choose run text false arms
  | .definition name body => do
      Act.changeShell fun shell =>
        { shell with functions := (name, body) :: shell.functions.filter (·.1 ≠ name) }
      Act.setStatus 0
  | .calculation expression => do
      Act.setStatus (if (← calculated run expression) = 0 then 1 else 0)
      checkFailure run
  | .test condition => do
      Act.setStatus (if ← meets run condition then 0 else 1)
      checkFailure run
  | .redirected inner redirections =>
      Act.keepingDescriptors do
        if ← applyRedirections run redirections then run [.ofCommand inner]
        else checkFailure run

/-! ## Pipelines and items -/

def row (run : Runner) : (input : Option Octets) → List Command → Act (List Nat)
  | _, [] => return []
  | input, first :: others => do
      let withInput (act : Act Unit) : Act Unit := do
        if let some text := input then
          let index ← Act.addFile (.source text)
          Act.setDescriptor 0 (some index)
        act
      let body : Act Unit := withInput (wholeShell run (run [.ofCommand first]))
      let start : Act Unit :=
        Act.changeShell fun shell => { shell with traps := [], loops := 0 }
      if others.isEmpty then return [← Act.below (do start; body)]
      else
        let (text, status) ← Act.collected (do start; body)
        return status :: (← row run (some text) others)

def isPlainWord (word : Word) : Bool :=
  word.all fun piece =>
    match piece with
    | .text _ _ | .parameter _ _ .value _ => true
    | _ => false

/-- Empty the files that a command will write, as it opens them before others read them. -/
def emptyTargets (run : Runner) : Command → Act Unit
  | .simple _ _ _ redirections | .redirected _ redirections =>
      redirections.forM fun redirection => do
        match redirection with
        | .mk _ (.write _) target =>
            if isPlainWord target then
              let path ← Expansion.text run target
              if (namedDescriptor? path).isNone then let _ ← openPath (.write false) path
        | _ => return
  | _ => return

def keepStatuses (statuses : List Nat) : Act Unit := do
  if (← Act.dialect) = .extended then
    let values := statuses.zipIdx.map fun (status, index) => (index, Text.decimalText status)
    Act.putVariable "PIPESTATUS".toList { values, isList := true }

def pipeline (run : Runner) : Pipeline → Act Unit
  | .mk negated commands => do
      let act : Act Unit := do
        match commands with
        | [only] =>
            command run only
            keepStatuses [← Act.status]
        | commands =>
            commands.tail.forM (emptyTargets run)
            let pipesFail := (← Act.shell).modes.pipesFail
            let statuses ← row run none commands
            let last := statuses.getLastD 0
            let failed := (statuses.filter (· ≠ 0)).getLastD 0
            keepStatuses statuses
            Act.setStatus (if pipesFail then failed else last)
            checkFailure run
      if negated then
        tested act
        Act.setStatus (if (← Act.status) = 0 then 1 else 0)
      else act

def chain (run : Runner) (first : Pipeline) : List (Bool × Pipeline) → Act Unit
  | [] => pipeline run first
  | (onSuccess, next) :: others => do
      tested (pipeline run first)
      skip run onSuccess next others
where
  skip (run : Runner) (onSuccess : Bool) (next : Pipeline) :
      List (Bool × Pipeline) → Act Unit
    | [] => do
        if ((← Act.status) = 0) = onSuccess then pipeline run next
    | (followingOn, following) :: others => do
        if ((← Act.status) = 0) = onSuccess then tested (pipeline run next)
        skip run followingOn following others

def item (run : Runner) : Item → Act Unit
  | .mk first others background => do
      if background then
        let _ ← runBelow run do
          let index ← Act.addFile .nothing
          Act.setDescriptor 0 (some index)
          chain run first others
        let process := (← get).processes + 1
        modify fun session => { session with processes := process }
        Act.changeShell fun shell => { shell with background := some process, status := 0 }
      else chain run first others

def runner : (depth : Nat) → Runner
  | 0 => fun _ => throw .exhausted
  | depth + 1 => fun items => items.forM (item (runner depth))

def deepest : Nat := 400

end Evaluation

end BuiltinWrappers.Script
