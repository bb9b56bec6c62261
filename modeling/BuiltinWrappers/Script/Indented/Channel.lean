import BuiltinWrappers.Script.Indented.Coding
import BuiltinWrappers.Script.Indented.Kinds

/-!
# Channels

Opening, reading and writing files as indented scripts do.  A text is decoded
when it is read and encoded when it is written; each kind of line end is read as
a line feed unless that is turned off.  What is written waits until enough has come
together, until it is asked for, or until the channel is closed or forgotten.
-/

namespace BuiltinWrappers.Script.Indented

open Text (Octets)

namespace Channel

/-! ## Channels in the store -/

def any? (address : Nat) : Eval (Option Channel) := do
  match ← Eval.object? address with
  | some (.channel channel) => return some channel
  | _ => return none

def at_ (address : Nat) : Eval Channel := do
  match ← any? address with
  | some channel =>
      if channel.isClosed then Eval.valueFault "I/O operation on closed file."
      return channel
  | none => Eval.typeFault "not a file"

def save (address : Nat) (channel : Channel) : Eval PUnit :=
  Eval.put address (.channel channel)

def unsupported {α : Type} (text : String) : Eval α := Eval.fail "UnsupportedOperation" text

def chunkSize : Nat := 8192

/-! ## Writing out -/

def fileContent? (location : Location) : Eval (Option (ByteArray × Nat)) := do
  match (← Eval.host).tree.node? location with
  | some (.file content mode) => return some (content, mode)
  | _ => return none

def withOctets (content : ByteArray) (position : Nat) (octets : Octets) : ByteArray :=
  if position = content.size then content ++ Octets.toBytes octets
  else Octets.toBytes (overwritten (Octets.ofBytes content) position octets)

def deliver (channel : Channel) (octets : Octets) : Eval Channel := do
  match channel.goal with
  | .stream number =>
      Eval.deliver (number = 2) octets
      return channel
  | .file location =>
      match ← fileContent? location with
      | none => return { channel with position := channel.position + octets.length }
      | some (content, mode) =>
          let position := if channel.isAppending then content.size else channel.position
          Eval.setHost ((← Eval.host).store location
            (.file (withOctets content position octets) mode))
          return { channel with position := position + octets.length }
  | .memory =>
      let position := channel.position
      return { channel with
        content := overwritten channel.content position octets
        position := position + octets.length }
  | .void => return channel

def writeOut (address : Nat) : Eval PUnit := do
  match ← any? address with
  | some channel =>
      if !channel.pending.isEmpty then
        save address (← deliver { channel with pending := [] } channel.pending)
  | none => pure ()

def flush (address : Nat) : Eval PUnit := do
  if address = Place.output then writeOut Place.outputOctets
  writeOut address

def close (address : Nat) : Eval PUnit := do
  flush address
  if let some channel := ← any? address then
    save address { channel with isClosed := true }
    modify fun machine => { machine with
      descriptors := machine.descriptors.filter (·.2 ≠ address) }

/-! ## Forgotten channels -/

def valueAddresses : (fuel : Nat) → Value → List Nat
  | 0, _ => []
  | fuel + 1, value =>
      match value with
      | .tuple values => values.flatMap (valueAddresses fuel)
      | .method object _ => valueAddresses fuel object
      | .bound object function => valueAddresses fuel object ++ valueAddresses fuel function
      | .accessor one two three =>
          valueAddresses fuel one ++ valueAddresses fuel two ++ valueAddresses fuel three
      | .detached function | .ofFamily function => valueAddresses fuel function
      | .superior family object => valueAddresses fuel family ++ valueAddresses fuel object
      | value => value.address?.toList

def deepestValue : Nat := 100

def frameValues : Frame → List Value
  | .each source _ _ _ | .delegating source _ => [source]
  | .handling fault _ => [fault]
  | .using exit => [exit]
  | _ => []

def courseValues : Course → List Value
  | .values rest => rest
  | .numbered source _ => [source]
  | .zipped sources _ => sources
  | .mapped function sources => function :: sources
  | .filtered function source | .untilEqual function source => [function, source]
  | .elements object _ => [object]
  | .list _ _ | .entries _ _ _ _ | .numbers _ _ _ | .lines _ => []

def objectAddresses (object : Object) : List Nat :=
  let ofValues (values : List Value) := values.flatMap (valueAddresses deepestValue)
  let ofNamed (entries : List (String × Value)) := ofValues (entries.map Prod.snd)
  match object with
  | .list values | .set values => ofValues values
  | .octets _ => []
  | .dictionary entries => ofValues (entries.flatMap fun (key, value) => [key, value])
  | .scope scope => ofNamed scope.entries
  | .closure closure =>
      closure.scopes ++ ofNamed closure.defaults ++ ofNamed closure.attributes
  | .family family => ofNamed family.attributes ++ ofValues family.ancestry
  | .entity entity => ofNamed entity.attributes ++ ofValues (entity.kind :: entity.core.toList)
  | .course (.list address _) | .course (.entries _ address _ _) | .course (.lines address) =>
      [address]
  | .course course => ofValues (courseValues course)
  | .generator generator => generator.scopes ++ ofValues (generator.frames.flatMap frameValues)
  | .channel channel => ofValues [channel.shownName]
  | .library _ scope => [scope]

def marked (store : Array Object) : (fuel : Nat) → Array Bool → List Nat → Array Bool
  | 0, marks, _ | _, marks, [] => marks
  | fuel + 1, marks, address :: others =>
      if (marks[address]?).getD true then marked store fuel marks others
      else
        let next := ((store[address]?).map objectAddresses).getD []
        marked store fuel (marks.set! address true) (next ++ others)

def mostSteps : Nat := 10000000

def settle : Eval PUnit := do
  let machine ← get
  let waiting := (List.range machine.store.size).filter fun address =>
    match (machine.store[address]? : Option Object) with
    | some (.channel channel) => !channel.pending.isEmpty
    | _ => false
  if !waiting.isEmpty then
    let roots := Place.globals :: Place.output :: Place.outputOctets :: Place.complaints ::
      (machine.active ++ machine.libraries.map Prod.snd)
    let kept := machine.handled.flatMap (valueAddresses deepestValue)
    let marks := marked machine.store mostSteps (Array.replicate machine.store.size false)
      (roots ++ kept)
    waiting.forM fun address => do
      if !(marks[address]?).getD true then writeOut address

def flushAll : Eval PUnit := do
  flush Place.output
  (List.range (← get).store.size).forM writeOut

/-! ## Reading -/

def chunk (channel : Channel) (position : Nat) : Eval Octets := do
  match channel.goal with
  | .stream _ => return []
  | .file location =>
      match ← fileContent? location with
      | some (content, _) =>
          return Octets.ofBytes (content.extract position (position + chunkSize))
      | none => return []
  | .memory => return channel.content.drop position
  | .void => return []

/-- Read further ahead; whether anything came. -/
def readAhead (address : Nat) : Eval Bool := do
  let channel ← at_ address
  match channel.goal with
  | .stream _ =>
      let octets := (← get).work.input
      modify fun machine =>
        { machine with work := { machine.work with input := [], inputRead := true } }
      save address { channel with ahead := channel.ahead ++ octets }
      return !octets.isEmpty
  | _ =>
      let octets ← channel.chunk (channel.position + channel.ahead.length)
      if !octets.isEmpty then save address { channel with ahead := channel.ahead ++ octets }
      return !octets.isEmpty

def needReadable (address : Nat) : Eval PUnit := do
  let channel ← at_ address
  if !channel.isReadable then unsupported "not readable"
  writeOut address

def readAheadToEnd (address : Nat) : (fuel : Nat) → Eval PUnit
  | 0 => pure ()
  | fuel + 1 => do
      if ← readAhead address then readAheadToEnd address fuel

def mostChunks : Nat := 100000

def advance (address count : Nat) : Eval PUnit := do
  let channel ← at_ address
  save address { channel with
    ahead := channel.ahead.drop count, position := channel.position + count }

def plainLineEnds : List Char → List Char
  | '\r' :: '\n' :: rest | '\r' :: rest => '\n' :: plainLineEnds rest
  | character :: rest => character :: plainLineEnds rest
  | [] => []

def valueOf (channel : Channel) (octets : Octets) : Eval Value := do
  if channel.isBinary then return .bytes octets
  let characters ← Coding.decode channel.encoding channel.handling octets
  return .text (if channel.lineEnds.isNone then plainLineEnds characters else characters)

def readAll (address : Nat) : Eval Value := do
  needReadable address
  readAheadToEnd address mostChunks
  let channel ← at_ address
  let octets := channel.ahead
  advance address octets.length
  channel.valueOf octets

def firstLine? (isBinary : Bool) (lineEnds : Option String) : Octets → Option Octets
  | [] => none
  | '\n' :: rest =>
      if isBinary ∨ (lineEnds ≠ some "\r" ∧ lineEnds ≠ some "\r\n") then some ['\n']
      else (firstLine? isBinary lineEnds rest).map ('\n' :: ·)
  | '\r' :: '\n' :: _ =>
      if isBinary ∨ lineEnds = some "\n" then some ['\r', '\n']
      else if lineEnds = some "\r" then some ['\r']
      else some ['\r', '\n']
  | '\r' :: rest =>
      if !isBinary ∧ lineEnds ≠ some "\n" ∧ lineEnds ≠ some "\r\n" then some ['\r']
      else (firstLine? isBinary lineEnds rest).map ('\r' :: ·)
  | octet :: rest => (firstLine? isBinary lineEnds rest).map (octet :: ·)

def nextLine (address : Nat) : (fuel : Nat) → Eval Octets
  | 0 => return []
  | fuel + 1 => do
      let channel ← at_ address
      let found := firstLine? channel.isBinary channel.lineEnds channel.ahead
      let isCut := found.any fun line =>
        line.getLast? = some '\r' && line.length = channel.ahead.length &&
          channel.lineEnds ≠ some "\r"
      match found, isCut with
      | some line, false => return line
      | _, _ =>
          if ← readAhead address then nextLine address fuel
          else return found.getD channel.ahead

def readLine (address : Nat) (limit : Option Nat) : Eval Value := do
  needReadable address
  let line ← nextLine address mostChunks
  let line := (limit.map fun limit => line.take limit).getD line
  advance address line.length
  (← at_ address).valueOf line

def isEmpty (value : Value) : Bool :=
  match value with
  | .text [] | .bytes [] => true
  | _ => false

def readLinesWithin (address : Nat) : (fuel : Nat) → List Value → Eval (List Value)
  | 0, found => return found.reverse
  | fuel + 1, found => do
      let line ← readLine address none
      if isEmpty line then return found.reverse
      readLinesWithin address fuel (line :: found)

def readLines (address : Nat) : Eval (List Value) := readLinesWithin address mostChunks []

def octetsOfCharacters (translates : Bool) : (count : Nat) → (fuel : Nat) → Octets → Nat
  | 0, _, _ | _, 0, _ | _, _, [] => 0
  | count + 1, fuel + 1, octet :: rest =>
      if translates ∧ octet = '\r' ∧ rest.head? = some '\n' then
        2 + octetsOfCharacters translates count fuel rest.tail
      else
        let size := (Coding.firstCharacter (octet :: rest)).2
        size + octetsOfCharacters translates count fuel (rest.drop (size - 1))

def readSome (address count : Nat) : Eval Value := do
  needReadable address
  readAheadToEnd address mostChunks
  let channel ← at_ address
  let size :=
    if channel.isBinary then count
    else octetsOfCharacters channel.lineEnds.isNone count (channel.ahead.length + 1) channel.ahead
  let octets := channel.ahead.take size
  advance address octets.length
  channel.valueOf octets

/-! ## Writing -/

def octetsOf (channel : Channel) (characters : List Char) : Eval Octets := do
  let translated :=
    match channel.lineEnds with
    | some "\r\n" => characters.flatMap fun character =>
        if character = '\n' then ['\r', '\n'] else [character]
    | some "\r" => characters.map fun character => if character = '\n' then '\r' else character
    | _ => characters
  Coding.encode channel.encoding channel.handling translated

def putOctets (address : Nat) (octets : Octets) : Eval PUnit := do
  let channel ← at_ address
  let channel := { channel with ahead := [] }
  if channel.isDirect ∨ channel.goal = .memory then
    save address (← deliver channel octets)
  else
    save address { channel with pending := channel.pending ++ octets }
    if chunkSize ≤ channel.pending.length + octets.length then flush address
    else if channel.isByLine ∧ octets.contains '\n' then flush address

def isNumberedKind (value : Value) : Eval Octets := do
  match value with
  | .bytes octets => return octets
  | .octets address => Eval.octetsAt address
  | value => Eval.typeFault ("a bytes-like object is required, not '" ++ value.plainKind ++ "'")

def write (address : Nat) (value : Value) : Eval Value := do
  let channel ← at_ address
  if !channel.isWritable then unsupported "not writable"
  match value, channel.isBinary with
  | .text characters, false =>
      putOctets address (← channel.octetsOf characters)
      return .ofNat characters.length
  | value, true =>
      let octets ← isNumberedKind value
      putOctets address octets
      return .ofNat octets.length
  | value, false =>
      Eval.typeFault ("write() argument must be str, not " ++ value.plainKind)

/-! ## Positions -/

def size (channel : Channel) : Eval Nat := do
  match channel.goal with
  | .file location => return ((← fileContent? location).map (·.1.size)).getD 0
  | .memory => return channel.content.length
  | _ => return 0

def truncate (address : Nat) (size : Option Nat) : Eval Value := do
  let channel ← at_ address
  if !channel.isWritable then unsupported "truncate"
  writeOut address
  let channel ← at_ address
  let size := size.getD channel.position
  let cut (octets : Octets) : Octets :=
    octets.take size ++ List.replicate (size - octets.length) '\x00'
  match channel.goal with
  | .file location =>
      if let some (content, mode) := ← fileContent? location then
        Eval.setHost ((← Eval.host).store location
          (.file (Octets.toBytes (cut (Octets.ofBytes content))) mode))
  | .memory => save address { channel with content := channel.content.take size }
  | _ => pure ()
  return .ofNat size

def seek (address : Nat) (offset origin : Int) : Eval Value := do
  writeOut address
  let channel ← at_ address
  if !channel.isBinary ∧ origin ≠ 0 ∧ offset ≠ 0 then
    unsupported "can't do nonzero cur-relative seeks"
  let size ← channel.size
  let start : Int := if origin = 1 then channel.position else if origin = 2 then size else 0
  if start + offset < 0 then Eval.valueFault "negative seek position"
  let position := (start + offset).toNat
  save address { channel with position, ahead := [] }
  return .ofNat position

def tell (address : Nat) : Eval Value := do
  let channel ← at_ address
  let start ←
    if channel.isAppending ∧ !channel.pending.isEmpty then channel.size else pure channel.position
  return .ofNat (start + channel.pending.length)

/-! ## Opening -/

def isMode (mode : List Char) : Bool :=
  mode.all ("rwaxbt+".toList.contains ·) && mode.Nodup &&
    (mode.filter ("rwax".toList.contains ·)).length = 1 &&
    !(mode.contains 'b' && mode.contains 't')

structure Manner where
  mode : List Char := ['r']
  buffering : Int := -1
  encoding : String := "utf-8"
  handling : String := "strict"
  lineEnds : Option String := none

def freeNumber : Eval Nat := do
  let taken := (← get).descriptors.map Prod.fst
  return ((List.range (taken.length + 1)).map (· + 3)).find? (!taken.contains ·) |>.getD 3

def register (channel : Channel) : Eval Value := do
  let number ← freeNumber
  let address ← Eval.allocate (.channel { channel with number })
  modify fun machine => { machine with descriptors := (number, address) :: machine.descriptors }
  return .channel address

def ofManner (shownName : Value) (manner : Manner) (goal : ChannelEnd) : Channel :=
  let mode := manner.mode
  let updates := mode.contains '+'
  let reads := mode.contains 'r'
  { goal, shownName, mode := String.ofList mode, isBinary := mode.contains 'b',
    isDirect := manner.buffering = 0, isByLine := manner.buffering = 1,
    encoding := manner.encoding, handling := manner.handling, lineEnds := manner.lineEnds,
    isReadable := reads || updates, isWritable := !reads || updates,
    isAppending := mode.contains 'a' }

def specialEnd? (path : List Char) : Option ChannelEnd :=
  match String.ofList path with
  | "/dev/stdin" | "/dev/fd/0" => some (.stream 0)
  | "/dev/stdout" | "/dev/fd/1" => some (.stream 1)
  | "/dev/stderr" | "/dev/fd/2" => some (.stream 2)
  | "/dev/null" => some .void
  | _ => none

def needMode (manner : Manner) : Eval PUnit := do
  if !isMode manner.mode then
    Eval.valueFault ("invalid mode: '" ++ String.ofList manner.mode ++ "'")
  if manner.mode.contains 'b' = false then
    if manner.buffering = 0 then Eval.valueFault "can't have unbuffered text I/O"
    let _ ← Coding.codingOf manner.encoding

/-- Open the file that a path leads to. -/
def opened (shownName : Value) (path : List Char) (manner : Manner) : Eval Value := do
  needMode manner
  settle
  let mode := manner.mode
  match specialEnd? path with
  | some goal => register (ofManner shownName manner goal)
  | none =>
      let host ← Eval.host
      match host.locate (String.ofList path) with
      | .error fault => Eval.refuse fault [shownName]
      | .ok (location, node) =>
          let isLink : Bool := match host.locateEntry (String.ofList path) with
            | .ok (_, some node) => node.isLink
            | _ => false
          if mode.contains 'x' ∧ (node.isSome ∨ isLink) then
            Eval.refuse .alreadyExists [shownName]
          match node with
          | some (.directory _) => Eval.refuse .isDirectory [shownName]
          | some node =>
              if path.getLast? = some '/' then Eval.refuse .notDirectory [shownName]
              if mode.contains 'w' then
                Eval.setHost (host.store location (.file .empty node.mode))
          | none =>
              if mode.contains 'r' then Eval.refuse .notFound [shownName]
              if path.getLast? = some '/' then Eval.refuse .isDirectory [shownName]
              Eval.setHost (host.store location (host.newFile .empty))
          register (ofManner shownName manner (.file location))

def openedNumber (number : Int) (manner : Manner) : Eval Value := do
  needMode manner
  match (← get).descriptors.find? fun entry => (entry.1 : Int) = number with
  | none => Eval.raise "OSError" [.integer 9, .ofString "Bad file descriptor"]
  | some (number, address) =>
      match ← any? address with
      | none => Eval.typeFault "not a file"
      | some before =>
          let channel := ofManner (.ofNat number) manner before.goal
          let address ← Eval.allocate (.channel { channel with
            number, position := before.position, content := before.content,
            isAppending := before.isAppending || channel.isAppending })
          modify fun machine => { machine with
            descriptors := (number, address) :: machine.descriptors.filter (·.1 ≠ number) }
          return .channel address

def openedMemory (isBinary : Bool) (content : Octets) (lineEnds : Option String) : Eval Value := do
  let channel : Channel :=
    { goal := .memory, isBinary, content, lineEnds, isReadable := true, isWritable := true,
      mode := if isBinary then "rb+" else "r+", handling := "surrogateescape" }
  return .channel (← Eval.allocate (.channel channel))

end Channel

end BuiltinWrappers.Script.Indented
