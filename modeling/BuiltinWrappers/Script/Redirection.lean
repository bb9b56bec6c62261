import BuiltinWrappers.Script.Expansion

/-!
# Redirections

What descriptors refer to while a command runs: files that are opened for it,
texts that stand in the script, and whatever other descriptors refer to.
-/

namespace BuiltinWrappers.Script

open Text (Octets)

/-! ## Opening files -/

inductive RedirectionFault where
  | unreadable (path : Octets) (fault : SystemFault)
  | unwritable (path : Octets) (fault : SystemFault)
  | badDescriptor (word : Octets)
  | ambiguous (word : Octets)

namespace RedirectionFault

def reason (making : Bool) (fault : SystemFault) : Octets :=
  match fault, making with
  | .notFound, true => "Directory nonexistent".toList
  | .notFound, false => "No such file".toList
  | fault, _ => fault.wording.toList

def text (dialect : Dialect) (fault : RedirectionFault) : Octets :=
  match dialect, fault with
  | .plain, .unreadable path fault =>
      "cannot open ".toList ++ path ++ ": ".toList ++ reason false fault
  | .plain, .unwritable path fault =>
      "cannot create ".toList ++ path ++ ": ".toList ++ reason true fault
  | .extended, .unwritable path .alreadyExists =>
      path ++ ": cannot overwrite existing file".toList
  | .extended, .unreadable path fault | .extended, .unwritable path fault =>
      path ++ ": ".toList ++ fault.wording.toList
  | _, .badDescriptor word => word ++ ": Bad file descriptor".toList
  | _, .ambiguous word => word ++ ": ambiguous redirect".toList

end RedirectionFault

def namedDescriptor? (path : Octets) : Option Nat :=
  match String.ofList path with
  | "/dev/stdin" => some 0
  | "/dev/stdout" => some 1
  | "/dev/stderr" => some 2
  | _ =>
      let front := "/dev/fd/".toList
      let digits := path.drop front.length
      if front.isPrefixOf path ∧ digits ≠ [] ∧ digits.all Char.isDigit then
        some (Text.ofDigits 10 digits)
      else none

def openForReading (path : Octets) : Act (Except RedirectionFault OpenFile) := do
  match (← Act.host).locate path.toString with
  | .error fault => return .error (.unreadable path fault)
  | .ok (_, none) => return .error (.unreadable path .notFound)
  | .ok (_, some (.directory _)) => return .ok .nothing
  | .ok (location, some _) => return .ok (.file location 0 false)

def openForWriting (path : Octets) (emptied refused appending : Bool) :
    Act (Except RedirectionFault OpenFile) := do
  let host ← Act.host
  match host.locate path.toString with
  | .error fault => return .error (.unwritable path fault)
  | .ok (_, some (.directory _)) => return .error (.unwritable path .isDirectory)
  | .ok (location, some node) =>
      if refused then return .error (.unwritable path .alreadyExists)
      else
        if emptied then Act.setHost (host.store location (.file .empty node.mode))
        return .ok (.file location 0 appending)
  | .ok (location, none) =>
      if path.getLast? = some '/' then return .error (.unwritable path .isDirectory)
      else
        Act.setHost (host.store location (host.newFile .empty))
        return .ok (.file location 0 appending)

def openPath (opening : Opening) (path : Octets) : Act (Except RedirectionFault OpenFile) := do
  if path = "/dev/null".toList ∨ path = "/dev/tty".toList then return .ok .nothing
  if Job.isEndless path then return .ok (.source Job.endlessPart)
  else
    match opening with
    | .read => openForReading path
    | .write overriding =>
        let keeps := (← Act.shell).modes.keepsFiles
        openForWriting path true (keeps && !overriding) false
    | .append => openForWriting path false false true
    | .both appending => openForWriting path (!appending) false appending
    | _ => openForWriting path false false false

/-! ## Applying redirections -/

def targetText (run : Runner) (word : Word) : Act (Except RedirectionFault Octets) := do
  match ← Act.dialect with
  | .plain => return .ok (← Expansion.text run word)
  | .extended =>
      match ← Expansion.fields run [word] with
      | [path] => return .ok path
      | _ => return .error (.ambiguous (← Expansion.text run word))

def duplicate (descriptor : Nat) (path : Octets) : Act (Except RedirectionFault Unit) := do
  if path = ['-'] then
    Act.setDescriptor descriptor none
    return .ok ()
  else if path ≠ [] ∧ path.all Char.isDigit then
    match ← Act.openFile? (Text.ofDigits 10 path) with
    | none => return .error (.badDescriptor path)
    | some (index, _) =>
        Act.setDescriptor descriptor (some index)
        return .ok ()
  else return .error (.badDescriptor path)

def openFor (descriptor : Nat) (opening : Opening) (path : Octets) (alsoFaults : Bool) :
    Act (Except RedirectionFault Unit) := do
  match namedDescriptor? path with
  | some other => duplicate descriptor (Text.decimalText other)
  | none =>
      match ← openPath opening path with
      | .error fault => return .error fault
      | .ok file =>
          let index ← Act.addFile file
          Act.setDescriptor descriptor (some index)
          if alsoFaults then Act.setDescriptor 2 (some index)
          return .ok ()

def redirect (run : Runner) : Redirection → Act (Except RedirectionFault Unit)
  | .mk descriptor opening target => do
      let descriptor := descriptor.getD 1
      match opening with
      | .document =>
          let index ← Act.addFile (.source (← Expansion.text run target))
          Act.setDescriptor descriptor (some index)
          return .ok ()
      | .line =>
          let index ← Act.addFile (.source ((← Expansion.text run target) ++ ['\n']))
          Act.setDescriptor descriptor (some index)
          return .ok ()
      | _ =>
          match ← targetText run target with
          | .error fault => return .error fault
          | .ok path =>
              match opening with
              | .duplicate =>
                  let isNumber := path = ['-'] || path.all Char.isDigit
                  if (← Act.dialect) = .extended ∧ descriptor = 1 ∧ !isNumber then
                    openFor 1 (.both false) path true
                  else duplicate descriptor path
              | .both _ => openFor 1 opening path true
              | _ => openFor descriptor opening path false

def redirectAll (run : Runner) : List Redirection → Act (Except RedirectionFault Unit)
  | [] => return .ok ()
  | redirection :: redirections => do
      match ← redirect run redirection with
      | .error fault => return .error fault
      | .ok _ => redirectAll run redirections

/-- Apply redirections; whether that was possible, with a complaint if it was not. -/
def applyRedirections (run : Runner) (redirections : List Redirection) : Act Bool := do
  match ← redirectAll run redirections with
  | .ok _ => return true
  | .error fault =>
      let dialect ← Act.dialect
      Act.complain (fault.text dialect)
      Act.setStatus (if dialect = .plain then 2 else 1)
      return false

end BuiltinWrappers.Script
