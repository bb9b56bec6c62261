import BuiltinWrappers.Script.Utility
import BuiltinWrappers.Script.Variable

/-!
# Sessions

What a shell knows while it runs: its variables, functions and modes, the files
it has open, and the host that it works on.  An act changes the session, and may
escape from the commands around it.
-/

namespace BuiltinWrappers.Script

open Text (Octets)

/-! ## Open files -/

inductive OpenFile where
  | nothing
  | screen
  | source (rest : Octets)
  | collected (parts : List Octets)
  | file (location : Location) (position : Nat) (appending : Bool)

/-! ## Shells -/

structure Modes where
  errorsEnd : Bool := false
  unsetIsError : Bool := false
  plainPaths : Bool := false
  pipesFail : Bool := false
  exportsAll : Bool := false
  keepsFiles : Bool := false
  onlyReads : Bool := false
  traces : Bool := false
  dropsUnmatched : Bool := false
  matchesHidden : Bool := false
  matchesDeep : Bool := false
  ignoresCase : Bool := false

/--
The state of one shell, of which a shell below it has a copy.  It knows its
directory by the path that led there.
-/
structure Shell where
  dialect : Dialect
  name : Octets
  directory : Octets := []
  arguments : List Octets := []
  bindings : List (Octets × Variable) := []
  functions : List (Octets × Command) := []
  modes : Modes := {}
  descriptors : List (Nat × Nat) := [(0, 0), (1, 1), (2, 2)]
  status : Nat := 0
  substitutionStatus : Nat := 0
  line : Nat := 1
  tested : Bool := false
  loops : Nat := 0
  calls : Nat := 0
  callNames : List Octets := []
  hidden : List (List (Octets × Option Variable)) := []
  traps : List (Octets × Octets) := []
  optionOffset : Nat := 0
  process : Nat := 4242
  isCopy : Bool := false
  background : Option Nat := none

structure Session where
  shell : Shell
  host : Host
  files : List (Nat × OpenFile) := [(0, .nothing), (1, .screen), (2, .nothing)]
  shown : List Octets := []
  processes : Nat := 4242
  doomed : List (Nat × Nat) := []

namespace Shell

def aim (shell : Shell) : (fuel : Nat) → Octets → Octets
  | 0, name => name
  | fuel + 1, name =>
      match (shell.bindings.lookup name).bind Variable.refersTo with
      | some other => shell.aim fuel other
      | none => name

def longestReference : Nat := 8

def aimOf (shell : Shell) (name : Octets) : Octets := shell.aim longestReference name

def variableNamed? (shell : Shell) (name : Octets) : Option Variable :=
  shell.bindings.lookup (shell.aimOf name)

end Shell

/-! ## Acts -/

/-- How an act leaves the commands around it. -/
inductive Escape where
  | leaveLoops (count : Nat)
  | nextRound (count : Nat)
  | leaveFunction
  | leaveLine
  | leave
  | killed (signal : Nat)
  | exhausted
  deriving DecidableEq, Repr

abbrev Act := ExceptT Escape (StateM Session)

namespace Act

def shell : Act Shell := return (← get).shell

def changeShell (change : Shell → Shell) : Act Unit :=
  modify fun session => { session with shell := change session.shell }

def setShell (shell : Shell) : Act Unit := changeShell fun _ => shell

def host : Act Host := return (← get).host

def setHost (host : Host) : Act Unit := modify fun session => { session with host }

def dialect : Act Dialect := return (← shell).dialect

def setStatus (status : Nat) : Act Unit := changeShell fun shell => { shell with status }

def status : Act Nat := return (← shell).status

def finally_ (act after : Act Unit) : Act Unit := do
  try act
  catch escape =>
    after
    throw escape
  after

/-! ## Files that are open -/

def openFile? (descriptor : Nat) : Act (Option (Nat × OpenFile)) := do
  let session ← get
  return do
    let index ← session.shell.descriptors.lookup descriptor
    let file ← session.files.lookup index
    return (index, file)

def replaceFile (index : Nat) (file : OpenFile) : Act Unit :=
  modify fun session =>
    { session with files := (index, file) :: session.files.filter (·.1 ≠ index) }

def addFile (file : OpenFile) : Act Nat := do
  let index := (← get).files.foldl (fun highest entry => max highest (entry.1 + 1)) 0
  modify fun session => { session with files := (index, file) :: session.files }
  return index

def setDescriptor (descriptor : Nat) (index : Option Nat) : Act Unit :=
  changeShell fun shell =>
    let others := shell.descriptors.filter (·.1 ≠ descriptor)
    { shell with descriptors := (index.map fun index => (descriptor, index)).toList ++ others }

def keepingDescriptors (act : Act Unit) : Act Unit := do
  let descriptors := (← shell).descriptors
  finally_ act (changeShell fun shell => { shell with descriptors })

def fileContent (location : Location) : Act (Option (Octets × Nat)) := do
  match (← host).tree.node? location with
  | some (.file content mode) => return some (Octets.ofBytes content, mode)
  | _ => return none

/-- Write to a descriptor; whether that was possible. -/
def write (descriptor : Nat) (text : Octets) : Act Bool := do
  match ← openFile? descriptor with
  | none => return false
  | some (index, file) =>
      match file with
      | .nothing => return true
      | .screen =>
          modify fun session => { session with shown := text :: session.shown }
          return true
      | .source _ => return false
      | .collected parts =>
          replaceFile index (.collected (text :: parts))
          return true
      | .file location position appending =>
          if let some (content, mode) ← fileContent location then
            let position := if appending then content.length else position
            let changed := Octets.toBytes (overwritten content position text)
            setHost ((← host).store location (.file changed mode))
            replaceFile index (.file location (position + text.length) appending)
          return true

def print (text : Octets) : Act Unit := do
  if !(← write 1 text) then setStatus 1

def pending (descriptor : Nat) : Act Octets := do
  match ← openFile? descriptor with
  | some (_, .source rest) => return rest
  | some (_, .file location position _) =>
      return ((← fileContent location).map (·.1.drop position)).getD []
  | _ => return []

/-- Leave only so many characters to be read. -/
def leavePending (descriptor count : Nat) : Act Unit := do
  match ← openFile? descriptor with
  | some (index, .source rest) =>
      replaceFile index (.source (rest.drop (rest.length - count)))
  | some (index, .file location _ appending) =>
      let size := ((← fileContent location).map (·.1.length)).getD 0
      replaceFile index (.file location (size - count) appending)
  | _ => return

def writingPosition (descriptor : Nat) : Act Nat := do
  match ← openFile? descriptor with
  | some (_, .file location position appending) =>
      let size := ((← fileContent location).map (·.1.length)).getD 0
      return if appending then size else position
  | _ => return 0

/-! ## Complaints -/

def complain (text : Octets) : Act Unit := do
  let shell ← shell
  let line := Text.decimalText shell.line
  let front : Octets :=
    match shell.dialect with
    | .plain => shell.name ++ ": ".toList ++ line ++ ": ".toList
    | .extended => shell.name ++ ": line ".toList ++ line ++ ": ".toList
  let _ ← write 2 (front ++ text ++ ['\n'])

def refuse {α : Type} (status : Nat) (text : Octets) : Act α := do
  complain text
  setStatus status
  throw .leave

def refuseExpansion {α : Type} (text : Octets) : Act α := do
  complain text
  match ← dialect with
  | .plain => setStatus 2; throw .leave
  | .extended => setStatus 1; throw .leaveLine

/-! ## Variables -/

def variableNamed? (name : Octets) : Act (Option Variable) := do
  return (← shell).variableNamed? name

def putVariable (name : Octets) (variableAt : Variable) : Act Unit :=
  changeShell fun shell =>
    { shell with
      bindings := (name, variableAt) :: shell.bindings.filter (·.1 ≠ name) }

def dropVariable (name : Octets) : Act Unit :=
  changeShell fun shell =>
    { shell with bindings := shell.bindings.filter (·.1 ≠ name) }

def value? (name : Octets) : Act (Option Octets) := do
  return (← variableNamed? name).bind Variable.value?

def valueOr (name : String) (otherwise : Octets) : Act Octets := do
  return (← value? name.toList).getD otherwise

def refuseReadOnly {α : Type} (name : Octets) : Act α := do
  match ← dialect with
  | .plain => refuse 2 (name ++ ": is read only".toList)
  | .extended =>
      complain (name ++ ": readonly variable".toList)
      setStatus 1
      throw .leaveLine

/-- Change a variable, or the one that it refers to, unless that is read-only. -/
def changeVariable (name : Octets) (change : Variable → Variable) : Act Unit := do
  let name := (← shell).aimOf name
  let variableAt := (← variableNamed? name).getD {}
  if variableAt.readOnly then refuseReadOnly name
  let exported := variableAt.exported || (← shell).modes.exportsAll
  putVariable name (change { variableAt with exported })

def setVariable (name value : Octets) : Act Unit :=
  changeVariable name (·.setAt 0 value)

def exports : Act (List (Octets × Octets)) := do
  return (← shell).bindings.filterMap fun (name, variableAt) =>
    if variableAt.exported then variableAt.value?.map fun value => (name, value) else none

/-! ## Shells below -/

def checkDoom : Act Unit := do
  let session ← get
  if let some signal := session.doomed.lookup session.shell.process then
    if !session.shell.isCopy then throw (.killed signal)

/--
Run an act in a shell below this one.  What it does to files and hosts stays, but
not what it does to the shell; its end is its own.
-/
def below (act : Act Unit) : Act Nat := do
  let session ← get
  changeShell fun shell => { shell with isCopy := true }
  let outcome : Option Escape ← try act; pure none catch escape => pure (some escape)
  let status := (← get).shell.status
  let workingDirectory := session.host.workingDirectory
  let creationMask := session.host.creationMask
  modify fun after =>
    { after with
      shell := session.shell
      host := { after.host with workingDirectory, creationMask } }
  checkDoom
  match outcome with
  | some .exhausted => throw .exhausted
  | some (.killed signal) => return 128 + signal
  | _ => return status

def collected (act : Act Unit) : Act (Octets × Nat) := do
  let index ← addFile (.collected [])
  let status ← below do
    setDescriptor 1 (some index)
    act
  match (← get).files.lookup index with
  | some (.collected parts) => return (parts.reverse.flatten, status)
  | _ => return ([], status)

/-! ## Utilities -/

def descriptorPath (descriptor : Nat) : Octets :=
  "/dev/fd/".toList ++ Text.decimalText descriptor

def sources : Act (List (Octets × Octets)) := do
  let session ← get
  return session.shell.descriptors.filterMap fun (descriptor, index) =>
    match session.files.lookup index with
    | some (.source rest) => if 2 < descriptor then some (descriptorPath descriptor, rest) else none
    | _ => none

def deliver (printed : List (Bool × Octets)) : Act Unit :=
  printed.reverse.forM fun (complaint, text) => do
    let _ ← write (if complaint then 2 else 1) text

def useUtility (name : Octets) (utility : Utility) (arguments : List Octets) : Act Unit := do
  let input ← pending 0
  let source ← openFile? 0
  let target ← openFile? 1
  let location? (file : Option (Nat × OpenFile)) : Option Location :=
    match file with
    | some (_, .file location _ _) => some location
    | _ => none
  let work : Work :=
    { name, host := ← host, input, inputIsFile := (location? source).isSome,
      source := location? source, sources := ← sources, target := location? target,
      targetPosition := ← writingPosition 1, environment := ← exports }
  let done := Job.run (utility arguments) work
  setHost done.host
  if done.inputRead then leavePending 0 done.input.length
  deliver done.printed
  let lost := target.isNone ∧ done.printed.any fun (complaint, text) =>
    !complaint && !text.isEmpty
  setStatus (if lost then max 1 done.status else done.status)

end Act

end BuiltinWrappers.Script
