import BuiltinWrappers.Script.Launch

/-!
# Commands that control others

Commands of the shell that run other commands, leave what is around them, or say
what is to be done later.  `dispatch` runs the words of a command, and is told
whether functions count.
-/

namespace BuiltinWrappers.Script.Control

open Text (Octets)

abbrev Dispatcher := (functions : Bool) → List Octets → Act Unit

/-! ## Leaving -/

def statusOf (name : String) (word : Option Octets) : Act Nat := do
  match word with
  | none => Act.status
  | some word =>
      match Text.integer? word with
      | some status => return (status % 256).toNat
      | none =>
          Act.complain (name.toList ++ ": Illegal number: ".toList ++ word)
          return 2

def exit (arguments : List Octets) : Act Unit := do
  Act.setStatus (← statusOf "exit" arguments.head?)
  throw .leave

def return_ (arguments : List Octets) : Act Unit := do
  let shell ← Act.shell
  if shell.calls = 0 ∧ shell.dialect = .extended then
    OwnCommand.blame "return" 2
      "can only \x60return' from a function or sourced script".toList
  else
    Act.setStatus (← statusOf "return" arguments.head?)
    throw .leaveFunction

def loopCount (arguments : List Octets) : Nat :=
  max 1 (((arguments.head?.bind Text.integer?).map Int.toNat).getD 1)

def leaveLoops (arguments : List Octets) (escape : Nat → Escape) : Act Unit := do
  let loops := (← Act.shell).loops
  Act.setStatus 0
  if 0 < loops then throw (escape (min (loopCount arguments) loops))

/-! ## Signals -/

def signals : List (String × Nat) :=
  [("EXIT", 0), ("HUP", 1), ("INT", 2), ("QUIT", 3), ("ABRT", 6), ("KILL", 9), ("USR1", 10),
   ("USR2", 12), ("PIPE", 13), ("ALRM", 14), ("TERM", 15), ("CHLD", 17), ("CONT", 18),
   ("STOP", 19), ("URG", 23), ("WINCH", 28)]

def signalName? (word : Octets) : Option Octets :=
  let upper := word.map Char.toUpper
  let bare := if "SIG".toList.isPrefixOf upper then upper.drop 3 else upper
  if bare ≠ [] ∧ bare.all Char.isDigit then
    (signals.find? (·.2 = Text.ofDigits 10 bare)).map fun entry => entry.1.toList
  else if bare = "ERR".toList ∨ bare = "DEBUG".toList ∨ bare = "RETURN".toList then some bare
  else if signals.any (·.1.toList = bare) then some bare
  else none

def isHarmless (signal : Octets) : Bool :=
  ["EXIT", "CHLD", "CONT", "URG", "WINCH"].contains (String.ofList signal)

def signalNumber (signal : Octets) : Nat :=
  ((signals.find? (·.1.toList = signal)).map Prod.snd).getD 15

def receive (run : Runner) (signal : Octets) : Act Unit := do
  let shell ← Act.shell
  let trapText := if signal = "KILL".toList then none else shell.traps.lookup signal
  match trapText with
  | some text =>
      runText run text
      Act.setStatus 0
  | none =>
      if !isHarmless signal then
        let number := signalNumber signal
        if shell.isCopy then
          modify fun session => { session with doomed := (shell.process, number) :: session.doomed }
        else throw (.killed number)

def sendTo (run : Runner) (signal word : Octets) : Act Unit := do
  let shell ← Act.shell
  match Text.integer? word with
  | none => OwnCommand.blame "kill" (← OwnCommand.misuse) ("Illegal number: ".toList ++ word)
  | some process =>
      if process = shell.process then receive run signal
      else if process = 1 ∧ isHarmless signal then return
      else OwnCommand.blame "kill" 1 "No such process".toList

def kill (run : Runner) (arguments : List Octets) : Act Unit := do
  Act.setStatus 0
  let send (signal : Octets) (words : List Octets) : Act Unit := do
    match signalName? signal with
    | some signal => words.forM (sendTo run signal)
    | none => OwnCommand.blame "kill" (← OwnCommand.misuse) "bad signal".toList
  match arguments with
  | ['-', 'l'] :: word :: _ =>
      let number := Text.ofDigits 10 word
      let signal := signals.find? fun entry => entry.2 = number ∨ entry.2 + 128 = number
      Act.print (((signal.map fun entry => entry.1.toList).getD word) ++ ['\n'])
  | [['-', 'l']] =>
      Act.print (List.intercalate ['\n']
        ((signals.drop 1).map fun entry => entry.1.toList) ++ ['\n'])
  | ['-', 's'] :: signal :: words => send signal words
  | ['-', '-'] :: words => send "TERM".toList words
  | ('-' :: signal) :: words => send signal words
  | words => send "TERM".toList words

/-! ## Traps -/

def listTraps : Act Unit := do
  let shell ← Act.shell
  Act.print (shell.traps.reverse.flatMap fun (name, text) =>
    "trap -- ".toList ++ OwnCommand.inQuotes .plain text ++ ' ' :: name ++ ['\n'])

def trap (arguments : List Octets) : Act Unit := do
  Act.setStatus 0
  let arguments := if arguments.head? = some ['-', '-'] then arguments.tail else arguments
  let change (text : Option Octets) (words : List Octets) : Act Unit :=
    words.forM fun word => do
      match signalName? word with
      | none => OwnCommand.blame "trap" 1 (word ++ ": bad trap".toList)
      | some name =>
          dropTrap name
          if let some text := text then
            Act.changeShell fun shell => { shell with traps := (name, text) :: shell.traps }
  match arguments with
  | [] | [['-', 'p']] => listTraps
  | [word] => change none [word]
  | ['-'] :: words => change none words
  | text :: words =>
      if text ≠ [] ∧ text.all Char.isDigit then change none arguments
      else change (some text) words

/-! ## Texts -/

def eval (run : Runner) (arguments : List Octets) : Act Unit :=
  runText run ([' '].intercalate arguments)

/-- Run a file as part of this shell. -/
def source (run : Runner) (arguments : List Octets) : Act Unit := do
  match arguments with
  | [] => OwnCommand.blame "." 2 "filename argument required".toList
  | path :: parameters =>
      let host ← Act.host
      let shell ← Act.shell
      let direct := (Launch.standsWith host path).map Prod.fst
      let alongPath : Option Octets :=
        ((← Launch.searchPath).splitOn ':').findSome? fun directory =>
          (Launch.standsWith host (within directory path)).map Prod.fst
      let content :=
        if path.contains '/' then direct
        else if shell.dialect = .extended then alongPath <|> direct
        else alongPath
      match content, shell.dialect with
      | none, .plain =>
          if path.contains '/' then
            Act.refuse 2 (".: cannot open ".toList ++ path ++ ": No such file".toList)
          else Act.refuse 2 (".: ".toList ++ path ++ ": not found".toList)
      | none, .extended =>
          Act.complain (path ++ ": No such file or directory".toList)
          Act.setStatus 1
      | some text, _ =>
          let given := shell.dialect = .extended && !parameters.isEmpty
          Act.changeShell fun shell =>
            { shell with
              calls := shell.calls + 1
              hidden := [] :: shell.hidden
              arguments := if given then parameters else shell.arguments }
          let restore : Act Unit := Act.changeShell fun after =>
            { after with
              calls := shell.calls
              hidden := shell.hidden
              arguments := if given then shell.arguments else after.arguments }
          Act.finally_ (do
            try runText run text
            catch escape => if escape ≠ .leaveFunction then throw escape) restore

/-! ## Other commands -/

def isKeyword (dialect : Dialect) (name : Octets) : Bool :=
  (["if", "then", "else", "elif", "fi", "case", "esac", "for", "while", "until", "do", "done",
    "in", "!", "\x7b", "\x7d"] ++
    (if dialect = .extended then ["function", "[[", "]]", "time", "select"] else [])).contains
    (String.ofList name)

def meaning? (full : Bool) (name : Octets) : Act (Option Octets) := do
  let shell ← Act.shell
  let say (fact : String) : Option Octets :=
    some (if full then name ++ fact.toList else name)
  if isKeyword shell.dialect name then return say " is a shell keyword"
  else if (shell.functions.lookup name).isSome then
    return say (if shell.dialect = .plain then " is a shell function" else " is a function")
  else if OwnCommand.isOwn shell.dialect name then
    let special := OwnCommand.specialNames.contains (String.ofList name)
    return say (if special ∧ shell.dialect = .plain then " is a special shell builtin"
      else " is a shell builtin")
  else
    let path : Option Octets ←
      if name.contains '/' then do
        let host ← Act.host
        match Launch.standsWith host name with
        | some (_, true) => pure (some name)
        | _ => pure ((programAt? name).map fun _ => name)
      else do pure (Launch.found? (← Act.host) (← Launch.searchPath) name)
    return path.map fun path =>
      if full then name ++ " is ".toList ++ path else path

def describe (full : Bool) (names : List Octets) : Act Unit := do
  Act.setStatus 0
  names.forM fun name => do
    match ← meaning? full name with
    | some text => Act.print (text ++ ['\n'])
    | none =>
        if full then
          match ← Act.dialect with
          | .plain => let _ ← Act.write 1 (name ++ ": not found\n".toList)
          | .extended => Act.complain ("type: ".toList ++ name ++ ": not found".toList)
        Act.setStatus (if full ∧ (← Act.dialect) = .extended then 1 else 127)

def type (arguments : List Octets) : Act Unit := do
  match arguments with
  | ['-', 'p'] :: names | ['-', 'P'] :: names => describe false names
  | ['-', 't'] :: names =>
      Act.setStatus 0
      names.forM fun name => do
        let shell ← Act.shell
        if isKeyword shell.dialect name then Act.print "keyword\n".toList
        else if (shell.functions.lookup name).isSome then Act.print "function\n".toList
        else if OwnCommand.isOwn shell.dialect name then Act.print "builtin\n".toList
        else
          match ← meaning? false name with
          | some _ => Act.print "file\n".toList
          | none => Act.setStatus 1
  | names => describe true names

def command (dispatch : Dispatcher) (arguments : List Octets) : Act Unit := do
  match arguments with
  | ['-', 'v'] :: names => describe false names
  | ['-', 'V'] :: names => describe true names
  | ['-', 'p'] :: words | ['-', '-'] :: words | words =>
      if words.isEmpty then Act.setStatus 0 else dispatch false words

def exec (launch : Launch.Launcher) (arguments : List Octets) : Act Unit := do
  let words := if arguments.head? = some ['-', '-'] then arguments.tail else arguments
  let words := if words.head? = some ['-', 'a'] then words.drop 2 else words
  if words.isEmpty then Act.setStatus 0
  else
    dropTrap exitTrap
    launch words
    throw .leave

def control? (run : Runner) (dispatch : Dispatcher) (dialect : Dialect) (name : String) :
    Option (List Octets → Act Unit) :=
  match name with
  | "." => some (source run)
  | "source" => if dialect = .extended then some (source run) else none
  | "break" => some fun arguments => leaveLoops arguments .leaveLoops
  | "continue" => some fun arguments => leaveLoops arguments .nextRound
  | "builtin" => if dialect = .extended then some (dispatch false) else none
  | "command" => some (command dispatch)
  | "eval" => some (eval run)
  | "exec" => some (exec (Launch.launch run Launch.deepest))
  | "exit" => some exit
  | "kill" => some (kill run)
  | "return" => some return_
  | "trap" => some trap
  | "type" => some type
  | _ => none

end BuiltinWrappers.Script.Control
