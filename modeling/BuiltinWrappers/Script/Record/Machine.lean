import BuiltinWrappers.Script.Record.Value

/-!
# The state of record scripts

The present record and its fields, the variables, and the files and commands that
are read from and written to.
-/

namespace BuiltinWrappers.Script.Record

open Text (Octets)

structure Slot where
  value : Value
  array : Nat

structure Machine where
  work : Work
  commands : Commands
  functions : List Function := []
  scalars : List (String × Value) := []
  arrays : List (Nat × List (Octets × Value)) := []
  arrayNames : List (String × Nat) := []
  arrayCount : Nat := 0
  frame : Option (List (String × Slot)) := none
  record : Octets := []
  fields : List Value := []
  pending : Option Octets := none
  operands : List Octets := []
  usedFile : Bool := false
  sources : List (Octets × Octets) := []
  goals : List Octets := []
  pipes : List (Octets × List Octets) := []
  ranges : List Nat := []

/-- How an evaluation ends without a value. -/
inductive Leap where
  | leave
  | nextRound
  | nextRecord
  | nextFile
  | finish
  | result (value : Value)
  | broken
  | exhausted

abbrev Eval := ExceptT Leap (StateM Machine)

namespace Eval

def job {α : Type} (task : Job α) : Eval (Option α) := do
  let machine ← get
  let (outcome, work) := StateT.run (ExceptT.run task) machine.work
  set { machine with work }
  return outcome.toOption

def print (octets : Octets) : Eval PUnit := do
  let _ ← job (Job.print octets)

def break_ {α : Type} (text : Octets) : Eval α := do
  let _ ← job (do Job.complain text; Job.setStatus 2)
  throw .broken

/-! ## Arrays -/

def newArray : Eval Nat := do
  let index := (← get).arrayCount
  modify fun machine => { machine with
    arrayCount := index + 1, arrays := (index, []) :: machine.arrays }
  return index

def slot? (name : String) : Eval (Option Slot) :=
  return (← get).frame.bind (·.lookup name)

def arrayOf (name : String) : Eval Nat := do
  match ← slot? name with
  | some slot => return slot.array
  | none =>
      match (← get).arrayNames.lookup name with
      | some index => return index
      | none =>
          let index ← newArray
          modify fun machine => { machine with
            arrayNames := (name, index) :: machine.arrayNames }
          return index

def entries (array : Nat) : Eval (List (Octets × Value)) :=
  return ((← get).arrays.lookup array).getD []

def setEntries (array : Nat) (entries : List (Octets × Value)) : Eval PUnit :=
  modify fun machine => { machine with
    arrays := machine.arrays.map fun (index, before) =>
      (index, if index = array then entries else before) }

def setEntry (array : Nat) (key : Octets) (value : Value) : Eval PUnit := do
  let before ← entries array
  let after :=
    if before.any (·.1 = key) then
      before.map fun (other, old) => (other, if other = key then value else old)
    else before ++ [(key, value)]
  setEntries array after

def entry (array : Nat) (key : Octets) : Eval Value := do
  match (← entries array).lookup key with
  | some value => return value
  | none =>
      setEntry array key .unset
      return .unset

/-! ## Variables -/

def scalar (name : String) : Eval Value := return ((← get).scalars.lookup name).getD .unset

def putScalar (name : String) (value : Value) : Eval PUnit :=
  modify fun machine => { machine with
    scalars := (name, value) :: machine.scalars.filter (·.1 ≠ name) }

def conversion : Eval Octets := return (← scalar "CONVFMT").toText []

def textOf (value : Value) : Eval Octets := return value.toText (← conversion)

def textOfScalar (name : String) : Eval Octets := do textOf (← scalar name)

/-! ## The record -/

def setRecord (text : Octets) : Eval PUnit := do
  let separator ← textOfScalar "FS"
  let paragraphs := (← textOfScalar "RS").isEmpty
  let parts :=
    if paragraphs ∧ separator ≠ [' '] then (text.splitOn '\n').flatMap (fieldsOf separator)
    else fieldsOf separator text
  modify fun machine => { machine with record := text, fields := parts.map .input }

def joinFields : Eval PUnit := do
  let separator ← textOfScalar "OFS"
  let form ← conversion
  modify fun machine => { machine with
    record := separator.intercalate (machine.fields.map (Value.toText form)) }

def setFieldCount (count : Nat) : Eval PUnit := do
  modify fun machine => { machine with
    fields := machine.fields.take count ++
      List.replicate (count - machine.fields.length) (.text []) }
  joinFields

def field (index : Nat) : Eval Value := do
  let machine ← get
  return if index = 0 then .input machine.record
    else (machine.fields[index - 1]?).getD .unset

def setField (index : Nat) (value : Value) : Eval PUnit := do
  if index = 0 then setRecord (← textOf value)
  else
    if (← get).fields.length < index then setFieldCount index
    let text ← textOf value
    modify fun machine => { machine with fields := machine.fields.set (index - 1) (.input text) }
    joinFields

def value (name : String) : Eval Value := do
  match ← slot? name with
  | some slot => return slot.value
  | none => if name = "NF" then return .ofNat (← get).fields.length else scalar name

def setValue (name : String) (value : Value) : Eval PUnit := do
  match ← slot? name with
  | some slot =>
      modify fun machine => { machine with
        frame := machine.frame.map fun slots =>
          (name, { slot with value }) :: slots.filter (·.1 ≠ name) }
  | none =>
      if name = "NF" then setFieldCount (Value.truncated value.toNumber).toNat
      else putScalar name value

def increase (name : String) : Eval PUnit := do
  putScalar name (.number ((← scalar name).toNumber + 1))

/-! ## Reading records -/

def setByOperand (operand : Octets) : Eval PUnit := do
  let name := operand.takeWhile (· ≠ '=')
  let text := operand.drop (name.length + 1)
  setValue (String.ofList name) (.input (Token.unescape (text.length + 1) text))

def isSetting (operand : Octets) : Bool :=
  let name := operand.takeWhile Token.isNameOctet
  (operand.drop name.length).head? = some '=' && name.head?.any Token.isNameStart

/-- Open the next file among the operands; whether there was one. -/
def openNext : (fuel : Nat) → Eval Bool
  | 0 => return false
  | fuel + 1 => do
      let machine ← get
      match machine.operands with
      | [] =>
          if machine.usedFile then return false
          let input ← job Job.readInput
          modify fun machine => { machine with pending := input, usedFile := true }
          return true
      | operand :: operands =>
          set { machine with operands }
          if operand.isEmpty then openNext fuel
          else if isSetting operand then
            setByOperand operand
            openNext fuel
          else
            modify fun machine => { machine with usedFile := true }
            match ← job (Job.read operand) with
            | some (.ok content) =>
                putScalar "FILENAME" (.input operand)
                putScalar "FNR" (.number 0)
                modify fun machine => { machine with pending := some content }
                return true
            | some (.error fault) =>
                let _ ← job (do
                  Job.complain ("cannot open ".toList ++ operand ++ " (".toList ++
                    Job.wording fault ++ [')'])
                  Job.setStatus 2)
                openNext fuel
            | none => openNext fuel

def nextRecord? : (fuel : Nat) → Eval (Option Octets)
  | 0 => return none
  | fuel + 1 => do
      let found := firstRecord? (← textOfScalar "RS") ((← get).pending.getD [])
      match found with
      | some (record, rest) =>
          modify fun machine => { machine with pending := some rest }
          increase "NR"
          increase "FNR"
          return some record
      | none => if ← openNext ((← get).operands.length + 2) then nextRecord? fuel else return none

def readRecord? : Eval (Option Octets) := do nextRecord? ((← get).operands.length + 2)

/-! ## Files and commands -/

def runCommand (line input : Octets) : Eval Nat := do
  let machine ← get
  let outcome := machine.commands (shellWords line) input machine.work.host
  let host := { outcome.host with workingDirectory := machine.work.host.workingDirectory }
  let printed := (true, outcome.complaints) :: (false, outcome.output) :: machine.work.printed
  set { machine with work := { machine.work with host, printed } }
  return outcome.status

def collectCommand (line : Octets) : Eval Octets := do
  let machine ← get
  let outcome := machine.commands (shellWords line) [] machine.work.host
  let host := { outcome.host with workingDirectory := machine.work.host.workingDirectory }
  set { machine with work := { machine.work with host } }
  return outcome.output

def isScreen (path : Octets) : Bool := path = ['-'] || path = "/dev/stdout".toList

/-- Put a text into a file, which is emptied first unless it is already written to. -/
def putFile (path text : Octets) (behind : Bool) : Eval PUnit := do
  if isScreen path then print text
  else if path = "/dev/stderr".toList then
    modify fun machine => { machine with work := { machine.work with
      printed := (true, text) :: machine.work.printed } }
  else
    let opened := (← get).goals.contains path
    let before ←
      if opened ∨ behind then
        match ← job (Job.read path) with
        | some (.ok content) => pure content
        | _ => pure []
      else pure []
    modify fun machine => { machine with goals := path :: machine.goals.filter (· ≠ path) }
    match ← job (Job.write path (before ++ text)) with
    | some (.error fault) =>
        break_ ("cannot open \"".toList ++ path ++ "\" for output (".toList ++
          Job.wording fault ++ [')'])
    | _ => pure ()

def putPipe (line text : Octets) : Eval PUnit :=
  modify fun machine =>
    let before := (machine.pipes.lookup line).getD []
    if machine.pipes.any (·.1 = line) then
      { machine with pipes := machine.pipes.map fun (other, parts) =>
          (other, if other = line then text :: before else parts) }
    else { machine with pipes := machine.pipes ++ [(line, [text])] }

def finishPipe (line : Octets) (parts : List Octets) : Eval Nat :=
  runCommand line parts.reverse.flatten

def closeAll : Eval PUnit := do
  let pipes := (← get).pipes
  modify fun machine => { machine with pipes := [] }
  pipes.forM fun (line, parts) => do
    let _ ← finishPipe line parts

/-- Close what has a name; the status of a command, or whether something was closed. -/
def close (name : Octets) : Eval Int := do
  let machine ← get
  set { machine with
    sources := machine.sources.filter (·.1 ≠ name), goals := machine.goals.filter (· ≠ name),
    pipes := machine.pipes.filter (·.1 ≠ name) }
  match machine.pipes.lookup name with
  | some parts => return (← finishPipe name parts)
  | none =>
      return if machine.goals.contains name ∨ machine.sources.any (·.1 = name) then 0 else -1

/-- The next line of a file or of what a command prints; nothing where it cannot be read. -/
def sourceLine? (name : Octets) (isCommand : Bool) : Eval (Option (Option Octets)) := do
  let rest? ←
    match (← get).sources.lookup name with
    | some rest => pure (some rest)
    | none =>
        if isCommand then some <$> collectCommand name
        else
          match ← job (Job.read name) with
          | some (.ok content) => pure (some content)
          | _ => pure none
  match rest? with
  | none => return none
  | some rest =>
      let found := firstRecord? (← textOfScalar "RS") rest
      let left := (found.map Prod.snd).getD []
      modify fun machine => { machine with
        sources := (name, left) :: machine.sources.filter (·.1 ≠ name) }
      return some (found.map Prod.fst)

end Eval

end BuiltinWrappers.Script.Record
