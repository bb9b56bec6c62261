import BuiltinWrappers.Script.Course
import BuiltinWrappers.Script.Finding
import BuiltinWrappers.Script.Indented.Evaluation
import BuiltinWrappers.Script.Record.Evaluation

/-!
# Launching programs

A command that is no part of the shell is looked up along the path.  It may be a
program of the system, some of which run other commands, or a script file, whose
first line names its interpreter.
-/

namespace BuiltinWrappers.Script

open Text (Octets)

namespace Launch

abbrev Launcher := List Octets → Act Unit

/-! ## First lines of scripts -/

def isLineBlank (character : Char) : Bool := character = ' ' || character = '\t'

def firstLineLimit : Nat := 255

def interpreter? (content : Octets) : Option (List Octets) :=
  match content with
  | '#' :: '!' :: rest =>
      let line := (rest.take (firstLineLimit - 2)).takeWhile (· ≠ '\n')
      let line := line.dropWhile isLineBlank
      let path := line.takeWhile (!isLineBlank ·)
      let argument := (line.dropWhile (!isLineBlank ·)).dropWhile isLineBlank
      let argument := (argument.reverse.dropWhile isLineBlank).reverse
      let place := if path.contains '/' then path else '.' :: '/' :: path
      if path.isEmpty then none
      else some (place :: if argument.isEmpty then [] else [argument])
  | _ => none

/-! ## Complaints -/

def notFound (name : Octets) : Act Unit := do
  match ← Act.dialect with
  | .plain => Act.complain (name ++ ": not found".toList)
  | .extended =>
      if name.contains '/' then Act.complain (name ++ ": No such file or directory".toList)
      else Act.complain (name ++ ": command not found".toList)
  Act.setStatus 127

def notPermitted (name : Octets) (isDirectory : Bool) : Act Unit := do
  let reason :=
    if isDirectory ∧ (← Act.dialect) = .extended then ": Is a directory" else ": Permission denied"
  Act.complain (name ++ reason.toList)
  Act.setStatus 126

def complainAs (name : String) (text : Octets) (status : Nat) : Act Unit := do
  let _ ← Act.write 2 (name.toList ++ ": ".toList ++ text ++ ['\n'])
  Act.setStatus status

/-! ## Shells -/

structure ShellStart where
  modes : Modes := {}
  isCommand : Bool := false
  isInput : Bool := false
  operands : List Octets := []

def shellStart? (dialect : Dialect) : (fuel : Nat) → ShellStart → List Octets → Option ShellStart
  | 0, start, words => some { start with operands := words }
  | fuel + 1, start, words =>
      match words with
      | ['-', '-'] :: rest | ['-'] :: rest => some { start with operands := rest }
      | ('-' :: '-' :: _) :: rest =>
          if dialect = .extended then shellStart? dialect fuel start rest else none
      | (sign :: letters) :: rest =>
          if sign ≠ '-' ∧ sign ≠ '+' then some { start with operands := words }
          else do
            let plain := letters.filter fun letter => letter ≠ 'c' ∧ letter ≠ 's' ∧ letter ≠ 'o'
            let modes ← plain.foldlM (fun modes letter =>
              OwnCommand.setMode? letter (sign = '-') modes) start.modes
            let start := { start with
              modes
              isCommand := start.isCommand || letters.contains 'c'
              isInput := start.isInput || letters.contains 's' }
            if letters.contains 'o' then
              match rest with
              | name :: rest => do
                  let modes ← OwnCommand.setNamedMode? dialect (String.ofList name)
                    (sign = '-') start.modes
                  shellStart? dialect fuel { start with modes } rest
              | [] => none
            else shellStart? dialect fuel start rest
      | words => some { start with operands := words }

def shell (run : Runner) (dialect : Dialect) (name : Octets) (words : List Octets) :
    Act Unit := do
  match shellStart? dialect (words.length + 1) {} words with
  | none => complainAs (String.ofList name) "0: Illegal option".toList 2
  | some start =>
      if start.isCommand then
        match start.operands with
        | [] => complainAs (String.ofList name) "0: -c requires an argument".toList 2
        | [text] => newShell run dialect start.modes name [] text
        | text :: zeroth :: arguments => newShell run dialect start.modes zeroth arguments text
      else
        match start.isInput, start.operands with
        | false, path :: arguments =>
            match (← Act.host).locate path.toString with
            | .ok (_, some (.file content _)) =>
                newShell run dialect start.modes path arguments (Octets.ofBytes content)
            | _ =>
                match dialect with
                | .plain =>
                    complainAs (String.ofList name)
                      ("0: cannot open ".toList ++ path ++ ": No such file".toList) 2
                | .extended =>
                    complainAs (String.ofList name)
                      (path ++ ": No such file or directory".toList) 127
        | _, arguments =>
            let text ← Act.pending 0
            Act.leavePending 0 0
            newShell run dialect start.modes name arguments text

/-! ## Programs that run a command -/

def withVariables (change : List (Octets × Variable) → List (Octets × Variable))
    (act : Act Unit) : Act Unit := do
  let bindings := (← Act.shell).bindings
  Act.changeShell fun shell => { shell with bindings := change shell.bindings }
  Act.finally_ act (Act.changeShell fun shell => { shell with bindings })

def exportAll (assignments : List (Octets × Octets)) (bindings : List (Octets × Variable)) :
    List (Octets × Variable) :=
  assignments.foldl (fun bindings (name, value) =>
    (name, { values := [(0, value)], exported := true }) ::
      bindings.filter (·.1 ≠ name)) bindings

def blankWords (text : Octets) : List Octets :=
  (text.splitOnP Cutting.isBlank).filter (· ≠ [])

def env (launch : Launcher) : (fuel : Nat) → (ignoring : Bool) → (dropped : List Octets) →
    List Octets → Act Unit
  | 0, _, _, _ => throw .exhausted
  | fuel + 1, ignoring, dropped, words => do
      match words with
      | ['-', 'i'] :: rest | ['-'] :: rest => env launch fuel true dropped rest
      | ['-', 'u'] :: name :: rest => env launch fuel ignoring (name :: dropped) rest
      | ['-', 'S'] :: text :: rest => env launch fuel ignoring dropped (blankWords text ++ rest)
      | ('-' :: 'S' :: text) :: rest => env launch fuel ignoring dropped (blankWords text ++ rest)
      | ['-', '-'] :: rest => body ignoring dropped rest
      | words => body ignoring dropped words
where
  body (ignoring : Bool) (dropped words : List Octets) : Act Unit := do
    let assignments := (words.takeWhile (·.contains '=')).map fun word =>
      (word.takeWhile (· ≠ '='), (word.dropWhile (· ≠ '=')).tail)
    let command := words.drop assignments.length
    let change (bindings : List (Octets × Variable)) : List (Octets × Variable) :=
      let kept := if ignoring then [] else bindings.filter fun entry => !dropped.contains entry.1
      exportAll assignments kept
    withVariables change do
      if command.isEmpty then
        Act.setStatus 0
        Act.print ((← Act.exports).flatMap fun (name, value) => name ++ '=' :: value ++ ['\n'])
      else launch command

def quotedWords : (quote : Option Char) → (current : Option Octets) → Octets → List Octets
  | _, current, [] => (current.map List.reverse).toList
  | none, current, '\\' :: character :: rest =>
      quotedWords none (some (character :: current.getD [])) rest
  | none, current, character :: rest =>
      if character = '\'' ∨ character = '"' then
        quotedWords (some character) (some (current.getD [])) rest
      else if Cutting.isBlank character then
        (current.map List.reverse).toList ++ quotedWords none none rest
      else quotedWords none (some (character :: current.getD [])) rest
  | some quote, current, character :: rest =>
      if character = quote then quotedWords none current rest
      else quotedWords (some quote) (some (character :: current.getD [])) rest

def groupsOf {α : Type} (count : Nat) : (fuel : Nat) → List α → List (List α)
  | 0, _ | _, [] => []
  | fuel + 1, items => items.take count :: groupsOf count fuel (items.drop count)

def filledIn (mark text : Octets) : (fuel : Nat) → Octets → Octets
  | 0, word => word
  | fuel + 1, word =>
      match word with
      | [] => []
      | character :: rest =>
          if mark ≠ [] ∧ mark.isPrefixOf word then
            text ++ filledIn mark text fuel (word.drop mark.length)
          else character :: filledIn mark text fuel rest

def xargsOptions : OptionSet where
  flags := "0rtpx"
  valued := "nIdLPsa"
  long := [("null", '0'), ("no-run-if-empty", 'r'), ("max-args", 'n'), ("verbose", 't'),
    ("delimiter", 'd'), ("max-procs", 'P'), ("max-lines", 'L'), ("replace", 'I')]
  inFront := true

def xargs (launch : Launcher) (words : List Octets) : Act Unit := do
  match xargsOptions.parse words with
  | .error fault => complainAs "xargs" fault.text 1
  | .ok options =>
      let input ← Act.pending 0
      Act.leavePending 0 0
      let command := if options.operands.isEmpty then ["echo".toList] else options.operands
      let separated (separator : Char) : List Octets :=
        let parts := input.splitOn separator
        if parts.getLast? = some [] then parts.dropLast else parts
      let items :=
        if options.has '0' then separated '\x00'
        else
          match options.value? 'd' with
          | some ['\\', 'n'] => separated '\n'
          | some [separator] => separated separator
          | _ =>
              if options.has 'I' then
                ((linesOf input).map fun line => line.dropWhile isLineBlank).filter (· ≠ [])
              else quotedWords none none input
      let count : Nat := (((options.value? 'n') <|> (options.value? 'L')).map
        fun text => Text.ofDigits 10 text).getD 5000
      let commands :=
        match options.value? 'I' with
        | some mark => items.map fun item =>
            command.map fun (word : Octets) => filledIn mark item (word.length + 1) word
        | none =>
            if items.isEmpty then if options.has 'r' then [] else [command]
            else (groupsOf (max count 1) items.length items).map (command ++ ·)
      let mut status := 0
      for words in commands do
        launch words
        let result ← Act.status
        if result = 127 ∨ result = 126 then status := result
        else if result ≠ 0 then status := 123
      Act.setStatus status

def afterOptions (valued : String) : List Octets → List Octets
  | ['-', letter] :: value :: rest =>
      if valued.toList.contains letter then afterOptions valued rest
      else if letter = '-' then value :: rest
      else afterOptions valued (value :: rest)
  | ('-' :: _ :: _) :: rest => afterOptions valued rest
  | words => words

/-! ## Script files -/

def standsWith (host : Host) (path : Octets) : Option (Octets × Bool) :=
  match host.locate path.toString with
  | .ok (_, some (.file content mode)) => some (Octets.ofBytes content, mode &&& 0o111 != 0)
  | _ => none

def file (run : Runner) (launch : Launcher) (path : Octets) (arguments : List Octets) :
    Act Unit := do
  let host ← Act.host
  match standsWith host path with
  | none => if host.isDirectoryPath path.toString then notPermitted path true else notFound path
  | some (_, false) => notPermitted path false
  | some (content, true) =>
      match interpreter? content with
      | some words =>
          let known := (words.head?.bind programAt?).isSome ||
            (words.head?.bind (standsWith host)).isSome
          if known then launch (words ++ path :: arguments) else notFound path
      | none => newShell run (← Act.dialect) {} path arguments content

/-! ## Finding programs -/

def found? (host : Host) (searchPath name : Octets) : Option Octets :=
  (searchPath.splitOn ':').findSome? fun directory =>
    let directory := if directory.isEmpty then ['.'] else directory
    let path := within directory name
    if (programAt? path).isSome then some path
    else
      match standsWith host path with
      | some (_, true) => some path
      | _ => none

def searchPath : Act Octets := Act.valueOr "PATH" defaultPath

def which (names : List Octets) : Act Unit := do
  Act.setStatus 0
  let host ← Act.host
  let searchPath ← searchPath
  (names.filter (·.head? ≠ some '-')).forM fun name => do
    let place :=
      if name.contains '/' then
        if (programAt? name).isSome || (standsWith host name).any Prod.snd then some name else none
      else found? host searchPath name
    match place with
    | some path => Act.print (path ++ ['\n'])
    | none => Act.setStatus 1

def errand (launch : Launcher) (session : Session) : Commands :=
  fun words input host =>
    let files : List (Nat × OpenFile) :=
      [(0, .source input), (1, .collected []), (2, .collected [])]
    let descriptors := [(0, 0), (1, 1), (2, 2)]
    let shell := { session.shell with descriptors }
    let start := { session with host, files, shell }
    let done := (StateT.run (ExceptT.run (launch words)) start).2
    let text (index : Nat) : Octets :=
      match done.files.lookup index with
      | some (.collected parts) => parts.reverse.flatten
      | _ => []
    { host := done.host, output := text 1, complaints := text 2, status := done.shell.status }

def program (run : Runner) (launch : Launcher) (base name : Octets)
    (arguments : List Octets) : Act Unit := do
  match String.ofList base with
  | "sh" | "dash" => shell run .plain name arguments
  | "bash" => shell run .extended name arguments
  | "env" => env launch (arguments.length + 64) false [] arguments
  | "xargs" => xargs launch arguments
  | "find" => Finding.find launch arguments
  | "nice" => launch (afterOptions "n" arguments)
  | "nohup" | "setsid" => launch (afterOptions "" arguments)
  | "stdbuf" => launch (afterOptions "ioe" arguments)
  | "timeout" => launch (afterOptions "ks" arguments).tail
  | "test" => OwnCommand.test "test" arguments
  | "[" => OwnCommand.bracket arguments
  | "which" => which arguments
  | "awk" | "mawk" => Act.useUtility name (Record.awk (errand launch (← get))) arguments
  | "python" | "python3" =>
      Act.useUtility name (Indented.interpret (errand launch (← get))) arguments
  | text =>
      match Utility.ofName? text with
      | some utility => Act.useUtility name utility arguments
      | none => notFound name

def launch (run : Runner) : (fuel : Nat) → Launcher
  | 0, _ => throw .exhausted
  | _ + 1, [] => Act.setStatus 0
  | fuel + 1, name :: arguments => do
      let atPath (called path : Octets) : Act Unit :=
        match programAt? path with
        | some base => program run (launch run fuel) base called arguments
        | none => file run (launch run fuel) path arguments
      if name.contains '/' then atPath name name
      else
        match found? (← Act.host) (← searchPath) name with
        | some path => atPath name path
        | none => notFound name

def deepest : Nat := 40

end Launch

end BuiltinWrappers.Script
