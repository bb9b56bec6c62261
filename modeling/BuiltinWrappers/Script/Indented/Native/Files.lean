import BuiltinWrappers.Script.Indented.Routine
import BuiltinWrappers.Script.Utility.Catalog

/-!
# Files of the system

The routines that look at paths, and that make, move and remove what the paths lead
to.  Open files can also be used by their numbers.
-/

namespace BuiltinWrappers.Script.Indented

open Text (Octets)

variable [Evaluator]

namespace Native.Files

/-! ## Paths -/

def pathOf (value : Value) : Eval String := do
  let characters ← Routine.pathText value
  if characters.contains '\x00' then Eval.valueFault "embedded null byte"
  return String.ofList characters

def located (value : Value) (follows : Bool) : Eval (Location × Option Node) := do
  Channel.settle
  let path ← pathOf value
  let host ← Eval.host
  match if follows then host.locate path else host.locateEntry path with
  | .ok (location, some node) => return (location, some node)
  | .ok (location, none) => return (location, systemNode? (encoded path.toList))
  | .error fault =>
      match systemNode? (encoded path.toList) with
      | some node => return ((path.splitOn "/").filter (· ≠ ""), some node)
      | none => Eval.refuse fault [value]

def needed (value : Value) (follows : Bool) : Eval (Location × Node) := do
  match ← located value follows with
  | (location, some node) => return (location, node)
  | (_, none) => Eval.refuse .notFound [value]

def change (paths : List Value) (act : Host → Except SystemFault Host) : Eval PUnit := do
  Channel.settle
  match act (← Eval.host) with
  | .ok host => Eval.setHost host
  | .error fault => Eval.refuse fault paths

def numbered (number : Int) : Eval Nat := do
  match (← get).descriptors.find? fun entry => (entry.1 : Int) = number with
  | some (_, address) => return address
  | none => Eval.raise "OSError" [.integer 9, .ofString "Bad file descriptor"]

/-! ## What the system knows of a file -/

def typeBits : Node → Nat
  | .directory _ => 0o040000
  | .file _ _ => 0o100000
  | .link _ => 0o120000

def nodeNumber (host : Host) (location : Location) : Nat :=
  let names := (host.namesOf location).map fun location => "/".intercalate location
  let first := names.foldl (fun first name => if name < first then name else first)
    (names.headD "")
  first.foldl (fun number character => (number * 131 + character.toNat) % 1000003) 7 + 131072

def time : Nat := 1700000000

def linkCount (host : Host) (location : Location) (node : Node) : Nat :=
  match node with
  | .directory _ =>
      2 + ((host.tree.children location).filter fun name =>
        host.tree.isDirectory (location ++ [name])).length
  | _ => (host.namesOf location).length

def facts (mode number links size : Nat) : Value :=
  .tuple ([mode, number, 2049, links, 0, 0, size, time, time, time].map .ofNat)

def factsOf (location : Location) (node : Node) : Eval Value := do
  let host ← Eval.host
  return facts (typeBits node + node.mode) (nodeNumber host location)
    (linkCount host location node) node.size

def factsOfChannel (address : Nat) : Eval Value := do
  Channel.settle
  match ← Channel.any? address with
  | some channel =>
      match channel.goal with
      | .file location =>
          match (← Eval.host).tree.node? location with
          | some node => factsOf location node
          | none => return facts 0o100644 1 0 0
      | .void => return facts 0o020666 5 1 0
      | _ => return facts 0o010600 3 1 0
  | none => return facts 0o010600 3 1 0

def isNothing (value : Value) : Bool :=
  match value with
  | .text characters => String.ofList characters = "/dev/null"
  | _ => false

def status (value : Value) (follows : Bool) : Eval Value := do
  match value with
  | .integer number => factsOfChannel (← numbered number)
  | value =>
      if isNothing value then return facts 0o020666 5 1 0
      let (location, node) ← needed value follows
      factsOf location node

/-! ## Making, moving and removing -/

def makeDirectory (value : Value) (mode : Nat) : Eval PUnit := do
  let path ← pathOf value
  if (systemNode? (encoded path.toList)).isSome then Eval.refuse .alreadyExists [value]
  change [value] (·.makeDirectory path mode)

def rename (source target : Value) : Eval PUnit := do
  let paths := [source, target]
  let sourcePath ← pathOf source
  let targetPath ← pathOf target
  Channel.settle
  let host ← Eval.host
  match host.locateEntry sourcePath, host.locateEntry targetPath with
  | .error fault, _ | _, .error fault => Eval.refuse fault paths
  | .ok (_, none), _ => Eval.refuse .notFound paths
  | .ok (old, some node), .ok (new, before) =>
      if old = new then return
      match node.isDirectory, before.map Node.isDirectory with
      | false, some true => Eval.refuse .isDirectory paths
      | true, some false => Eval.refuse .notDirectory paths
      | isDirectory, _ =>
          if isDirectory ∧ old.isPrefixOf new then Eval.refuse .badArgument paths
          if isDirectory ∧ before.isSome ∧ !(host.tree.children new).isEmpty then
            Eval.refuse .notEmpty paths
          Eval.setHost (host.move old new)

def link (source target : Value) : Eval PUnit := do
  let (old, node) ← needed source false
  let targetPath ← pathOf target
  match (← Eval.host).locateEntry targetPath with
  | .error fault => Eval.refuse fault [source, target]
  | .ok (_, some _) => Eval.refuse .alreadyExists [source, target]
  | .ok (new, none) =>
      if node.isDirectory then
        Eval.raise "PermissionError" [.integer 1, .ofString "Operation not permitted", source,
          .nothing, target]
      Eval.setHost ((← Eval.host).addName old new)

def symbolicLink (goal path : Value) : Eval PUnit := do
  Channel.settle
  match (← Eval.host).makeLink (← pathOf goal) (← pathOf path) with
  | .ok host => Eval.setHost host
  | .error fault => Eval.refuse fault [goal, path]

def readLink (value : Value) : Eval Value := do
  match ← needed value false with
  | (_, .link goal) => return .ofString goal
  | _ => Eval.refuse .badArgument [value]

def listing (value : Value) : Eval Value := do
  match ← needed value true with
  | (location, .directory _) =>
      Eval.newList (((← Eval.host).tree.children location).map .ofString)
  | _ => Eval.refuse .notDirectory [value]

def changeDirectory (value : Value) : Eval PUnit := do
  match ← needed value true with
  | (location, .directory _) =>
      Eval.setHost { (← Eval.host) with workingDirectory := location }
  | _ => Eval.refuse .notDirectory [value]

def workingDirectory : Eval Value := do
  let names := (← Eval.host).workingDirectory
  if names.isEmpty then return .ofString "/"
  return .text (names.flatMap fun name => '/' :: name.toList)

def setMode (value : Value) (mode : Int) : Eval PUnit := do
  let mode := (mode % 0o10000).toNat
  match value with
  | .integer number =>
      match ← Channel.any? (← numbered number) with
      | some { goal := .file location, .. } =>
          if let some node := (← Eval.host).tree.node? location then
            Eval.setHost ((← Eval.host).store location (node.withMode mode))
      | _ => pure ()
  | value =>
      let path ← pathOf value
      let _ ← needed value true
      change [value] (·.setMode path mode)

def isAccessible (value : Value) (wanted : Int) : Eval Bool := do
  let path ← pathOf value
  if isNothing value then return wanted % 2 = 0
  Channel.settle
  let node? : Option Node :=
    match (← Eval.host).locate path with
    | .ok (_, some node) => some node
    | _ => systemNode? (encoded path.toList)
  match node? with
  | some node => return wanted % 2 = 0 || node.isDirectory || node.isExecutable
  | none => return false

def setMask (mask : Int) : Eval Value := do
  let host ← Eval.host
  Eval.setHost { host with creationMask := (mask % 0o1000).toNat }
  return .ofNat host.creationMask

/-! ## Files by their numbers -/

def bit (flags : Int) (flag : Nat) : Bool := flags.toNat &&& flag != 0

/-- Open a file; its number. -/
def openNumber (value : Value) (flags mode : Int) : Eval Value := do
  let (makes, isNew, empties, appends) :=
    (bit flags 0o100, bit flags 0o200, bit flags 0o1000, bit flags 0o2000)
  let access := flags.toNat % 4
  let goal ←
    match Channel.specialEnd? (← Routine.pathText value) with
    | some goal => pure goal
    | none =>
        let (location, node) ← located value true
        match node with
        | some (.directory _) =>
            if access ≠ 0 then Eval.refuse .isDirectory [value]
        | some node =>
            if makes ∧ isNew then Eval.refuse .alreadyExists [value]
            if empties then Eval.setHost ((← Eval.host).store location (.file .empty node.mode))
        | none =>
            if !makes then Eval.refuse .notFound [value]
            let host ← Eval.host
            Eval.setHost (host.store location
              (.file .empty (host.maskedMode (mode % 0o10000).toNat)))
        pure (.file location)
  let opened ← Channel.register {
    goal, shownName := value, mode := "rb+", isBinary := true, isDirect := true
    isReadable := access ≠ 1, isWritable := access ≠ 0, isAppending := appends }
  match opened with
  | .channel address => return .ofNat (((← Channel.any? address).map Channel.number).getD 0)
  | value => return value

def octetsOf (value : Value) : Eval Octets := do
  match ← Protocol.octetsOf? (← Kinds.core value) with
  | some octets => return octets
  | none =>
      Eval.typeFault ("a bytes-like object is required, not '" ++ (← Kinds.nameOf value) ++ "'")

def writeNumber (number : Int) (value : Value) : Eval Value := do
  let octets ← octetsOf value
  let address ← numbered number
  match ← Channel.any? address with
  | some channel =>
      if !channel.isWritable then
        Eval.raise "OSError" [.integer 9, .ofString "Bad file descriptor"]
      let after ← Channel.deliver { channel with pending := [] } octets
      Channel.save address { after with pending := channel.pending, ahead := [] }
      return .ofNat octets.length
  | none => return .integer 0

def readNumber (number count : Int) : Eval Value := do
  let address ← numbered number
  match ← Channel.any? address with
  | some channel =>
      Channel.save address { channel with isBinary := true }
      let value ← Channel.readSome address count.toNat
      if let some after := ← Channel.any? address then
        Channel.save address { after with isBinary := channel.isBinary }
      return value
  | none => return .bytes []

def duplicate (number : Int) (second : Option Int) : Eval Value := do
  let address ← numbered number
  let second ←
    match second with
    | some second => pure second.toNat
    | none => Channel.freeNumber
  modify fun machine => { machine with
    descriptors := (second, address) :: machine.descriptors.filter (·.1 ≠ second) }
  return .ofNat second

/-! ## All routines -/

def names : List String :=
  ["getcwd", "chdir", "listdir", "mkdir", "rmdir", "unlink", "rename", "link", "symlink",
   "readlink", "stat", "lstat", "chmod", "access", "umask", "open", "read", "write", "close",
   "lseek", "ftruncate", "dup", "dup2", "utime", "_leave", "_random"]

def mixedOctets (count : Nat) : Eval Octets := do
  let seed := (← get).store.size * 7919 + 104729
  return (List.range count).map fun index =>
    Char.ofNat ((((seed + index * 2654435761) * 1103515245 + 12345) / 65536) % 256)

def call (name : String) (given : Arguments) : Eval Value := do
  let arguments := { given with plain := ← given.plain.mapM Routine.plainPath }
  let path : Eval Value := arguments.value 0 "path"
  let second : Eval Value := arguments.value 1 "dst"
  let number : Eval Int := arguments.integer 0 "fd" 0
  let done (act : Eval PUnit) : Eval Value := do
    act
    return .nothing
  match name with
  | "getcwd" => workingDirectory
  | "chdir" => done (do changeDirectory (← path))
  | "listdir" =>
      match arguments.value? 0 "path" with
      | none | some .nothing => listing (.ofString ".")
      | some value => listing value
  | "mkdir" =>
      let mode ← arguments.integer 1 "mode" 0o777
      done (do makeDirectory (← path) mode.toNat)
  | "rmdir" =>
      done do
        let value ← path
        let path ← pathOf value
        change [value] (·.removeDirectory path)
  | "unlink" =>
      done do
        let value ← path
        let path ← pathOf value
        change [value] (·.removeFile path)
  | "rename" => done (do rename (← arguments.value 0 "src") (← second))
  | "link" => done (do link (← arguments.value 0 "src") (← second))
  | "symlink" => done (do symbolicLink (← arguments.value 0 "src") (← second))
  | "readlink" => readLink (← path)
  | "stat" => status (← path) (← arguments.truth 9 "follow_symlinks" true)
  | "lstat" => status (← path) false
  | "chmod" => done (do setMode (← path) (← arguments.integer 1 "mode" 0))
  | "access" => return .truth (← isAccessible (← path) (← arguments.integer 1 "mode" 0))
  | "umask" => setMask (← arguments.integer 0 "mask" 0)
  | "open" =>
      openNumber (← path) (← arguments.integer 1 "flags" 0) (← arguments.integer 2 "mode" 0o777)
  | "read" => readNumber (← number) (← arguments.integer 1 "n" 0)
  | "write" => writeNumber (← number) (← arguments.value 1 "data")
  | "close" =>
      done do
        let number ← number
        let address ← numbered number
        modify fun machine => { machine with
          descriptors := machine.descriptors.filter fun entry => (entry.1 : Int) ≠ number }
        if !(← get).descriptors.any (·.2 = address) then Channel.close address
  | "lseek" =>
      Channel.seek (← numbered (← number)) (← arguments.integer 1 "pos" 0)
        (← arguments.integer 2 "how" 0)
  | "ftruncate" =>
      done do
        let size ← arguments.integer 1 "length" 0
        let _ ← Channel.truncate (← numbered (← number)) (some size.toNat)
  | "dup" => duplicate (← number) none
  | "dup2" => duplicate (← number) (some (← arguments.integer 1 "fd2" 0))
  | "utime" =>
      done do
        let _ ← needed (← path) true
  | "_leave" =>
      let status ← number
      throw (.halt (status % 256).toNat)
  | "_random" => return .bytes (← mixedOctets (← arguments.integer 0 "size" 0).toNat)
  | name => Eval.fail "NameError" ("name '" ++ name ++ "' is not defined")

end Native.Files

end BuiltinWrappers.Script.Indented
