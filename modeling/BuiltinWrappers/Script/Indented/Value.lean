import BuiltinWrappers.Script.Indented.Floating
import BuiltinWrappers.Script.Indented.Syntax
import BuiltinWrappers.Script.Utility

/-!
# Values of indented scripts

What a script computes with.  Whatever can change stands in a store, and values
hold its address there.  A body that is left before its end keeps the frames of
the statements that it was in.
-/

namespace BuiltinWrappers.Script.Indented

open Text (Octets)

/-! ## Values -/

inductive EntryPart where
  | keys
  | values
  | entries
  deriving DecidableEq, Repr

inductive Value where
  | nothing
  | ellipsis
  | unfit
  | truth (value : Bool)
  | integer (value : Int)
  | real (value : Float)
  | text (characters : List Char)
  | bytes (octets : Octets)
  | tuple (values : List Value)
  | range (start stop step : Int)
  | slice (start stop step : Value)
  | kind (name : String)
  | routine (name : String)
  | method (object : Value) (name : String)
  | bound (object function : Value)
  | accessor (reader writer remover : Value)
  | detached (function : Value)
  | ofFamily (function : Value)
  | superior (family object : Value)
  | list (address : Nat)
  | octets (address : Nat)
  | set (address : Nat)
  | frozenSet (address : Nat)
  | dictionary (address : Nat)
  | view (part : EntryPart) (address : Nat)
  | closure (address : Nat)
  | family (address : Nat)
  | entity (address : Nat)
  | iterator (address : Nat)
  | generator (address : Nat)
  | channel (address : Nat)
  | library (address : Nat)

namespace Value

def ofString (text : String) : Value := .text text.toList

def ofNat (value : Nat) : Value := .integer value

def address? : Value → Option Nat
  | .list address | .octets address | .set address | .frozenSet address | .dictionary address
  | .view _ address | .closure address | .family address | .entity address | .iterator address
  | .generator address | .channel address | .library address => some address
  | _ => none

def asInteger? : Value → Option Int
  | .integer value => some value
  | .truth value => some (if value then 1 else 0)
  | _ => none

end Value

structure Arguments where
  plain : List Value := []
  named : List (String × Value) := []

/-! ## Leaps and frames -/

inductive Leap where
  | fault (value : Value)
  | result (value : Value)
  | leave
  | nextRound
  | halt (status : Nat)
  | exhausted

/-- What is still to be done around the statement that runs. -/
inductive Frame where
  | statements (rest : List Statement)
  | loop (condition : Expression) (body otherwise : List Statement)
  | each (source : Value) (target : Expression) (body otherwise : List Statement)
  | attempt (handlers : List Handler) (otherwise afterwards : List Statement)
  | afterwards (statements : List Statement)
  | handling (fault : Value) (name : Option String)
  | leaping (leap : Leap)
  | using (exit : Value)
  | receiving (name : String)
  | delegating (source : Value) (name : String)

/-! ## Objects -/

inductive ScopeLevel where
  | script
  | function
  | family
  | inner
  deriving DecidableEq, Repr

structure Scope where
  level : ScopeLevel
  entries : List (String × Value) := []
  names : Names := {}
  subject : Option Value := none

structure Closure where
  name : String
  parameters : List Parameter
  body : List Statement
  names : Names
  defaults : List (String × Value)
  scopes : List Nat
  attributes : List (String × Value) := []

structure Family where
  name : String
  parents : List Value
  ancestry : List Value
  attributes : List (String × Value)
  order : Value := .kind "type"

structure Entity where
  kind : Value
  attributes : List (String × Value) := []
  core : Option Value := none

structure Generator where
  name : String
  scopes : List Nat
  frames : List Frame
  isStarted : Bool := false
  isRunning : Bool := false

/-- How an iterator comes to its next value. -/
inductive Course where
  | values (rest : List Value)
  | list (address index : Nat)
  | entries (part : EntryPart) (address size index : Nat)
  | numbers (next stop step : Int)
  | lines (channel : Nat)
  | numbered (source : Value) (next : Int)
  | zipped (sources : List Value) (isStrict : Bool)
  | mapped (function : Value) (sources : List Value)
  | filtered (function source : Value)
  | untilEqual (function last : Value)
  | elements (object : Value) (index : Nat)

inductive ChannelEnd where
  | stream (number : Nat)
  | file (location : Location)
  | memory
  | void
  deriving DecidableEq

/--
A file that a script has open, one of its three streams, or a text that is read
and written like a file.  What was read ahead starts at the position; what waits
to be written comes to stand there.
-/
structure Channel where
  goal : ChannelEnd
  shownName : Value := .nothing
  mode : String := "r"
  number : Nat := 0
  content : Octets := []
  isBinary : Bool := false
  isDirect : Bool := false
  isByLine : Bool := false
  encoding : String := "utf-8"
  handling : String := "strict"
  lineEnds : Option String := none
  isReadable : Bool := false
  isWritable : Bool := false
  isAppending : Bool := false
  position : Nat := 0
  ahead : Octets := []
  pending : Octets := []
  isClosed : Bool := false

inductive Object where
  | list (values : List Value)
  | octets (octets : Octets)
  | set (values : List Value)
  | dictionary (entries : List (Value × Value))
  | scope (scope : Scope)
  | closure (closure : Closure)
  | family (family : Family)
  | entity (entity : Entity)
  | course (course : Course)
  | generator (generator : Generator)
  | channel (channel : Channel)
  | library (name : String) (scope : Nat)

/-! ## Machines -/

/-- The state of a run. -/
structure Machine where
  work : Work
  commands : Commands
  store : Array Object := #[]
  libraries : List (String × Nat) := []
  handled : List Value := []
  active : List Nat := []
  lastActs : List (Value × Arguments) := []
  descriptors : List (Nat × Nat) := []
  depth : Nat := 0

abbrev Eval := ExceptT Leap (StateM Machine)

/-! ## Fixed places in the store -/

namespace Place

def globals : Nat := 0
def arguments : Nat := 1
def environment : Nat := 2
def input : Nat := 3
def output : Nat := 4
def complaints : Nat := 5
def outputOctets : Nat := 6
def system : Nat := 7

end Place

namespace Eval

/-! ## The store -/

def allocate (object : Object) : Eval Nat := do
  let address := (← get).store.size
  modify fun machine => { machine with store := machine.store.push object }
  return address

def object? (address : Nat) : Eval (Option Object) := return (← get).store[address]?

def put (address : Nat) (object : Object) : Eval PUnit :=
  modify fun machine =>
    { machine with store := machine.store.setIfInBounds address object }

def newList (values : List Value) : Eval Value := return .list (← allocate (.list values))

def newSet (values : List Value) : Eval Value := return .set (← allocate (.set values))

def newDictionary (entries : List (Value × Value)) : Eval Value :=
  return .dictionary (← allocate (.dictionary entries))

def newIterator (course : Course) : Eval Value := return .iterator (← allocate (.course course))

def newEntity (entity : Entity) : Eval Value := return .entity (← allocate (.entity entity))

def listAt (address : Nat) : Eval (List Value) := do
  match ← object? address with
  | some (.list values) | some (.set values) => return values
  | _ => return []

def octetsAt (address : Nat) : Eval Octets := do
  match ← object? address with
  | some (.octets octets) => return octets
  | _ => return []

def namedEntries (entries : List (String × Value)) : List (Value × Value) :=
  entries.map fun (name, value) => (.ofString name, value)

def entriesByName (entries : List (Value × Value)) : List (String × Value) :=
  entries.filterMap fun (key, value) =>
    match key with
    | .text characters => some (String.ofList characters, value)
    | _ => none

def entriesAt (address : Nat) : Eval (List (Value × Value)) := do
  match ← object? address with
  | some (.dictionary entries) => return entries
  | some (.entity entity) => return namedEntries entity.attributes
  | some (.family family) => return namedEntries family.attributes
  | some (.scope scope) => return namedEntries scope.entries
  | some (.closure closure) => return namedEntries closure.attributes
  | _ => return []

def putEntries (address : Nat) (entries : List (Value × Value)) : Eval PUnit := do
  let named := entriesByName entries
  match ← object? address with
  | some (.entity entity) => put address (.entity { entity with attributes := named })
  | some (.family family) => put address (.family { family with attributes := named })
  | some (.scope scope) => put address (.scope { scope with entries := named })
  | some (.closure closure) => put address (.closure { closure with attributes := named })
  | _ => put address (.dictionary entries)

def entityAt (address : Nat) : Eval Entity := do
  match ← object? address with
  | some (.entity entity) => return entity
  | _ => return { kind := .kind "object" }

def familyAt? (address : Nat) : Eval (Option Family) := do
  match ← object? address with
  | some (.family family) => return some family
  | _ => return none

def scopeAt? (address : Nat) : Eval (Option Scope) := do
  match ← object? address with
  | some (.scope scope) => return some scope
  | _ => return none

def libraryScope? (address : Nat) : Eval (Option Scope) := do
  match ← object? address with
  | some (.library _ scope) => scopeAt? scope
  | _ => return none

/-! ## Faults -/

def faultAttributes (kind : String) (details : List Value) : List (String × Value) :=
  let system : List (String × Value) :=
    match details with
    | number :: wording :: rest =>
        [("errno", number), ("strerror", wording), ("filename", (rest[0]?).getD .nothing),
         ("filename2", (rest[2]?).getD .nothing)]
    | _ => [("errno", .nothing), ("strerror", .nothing), ("filename", .nothing),
        ("filename2", .nothing)]
  match kind with
  | "SystemExit" => [("code", match details with
      | [] => .nothing
      | [detail] => detail
      | details => .tuple details)]
  | "StopIteration" => [("value", details.headD .nothing)]
  | "ImportError" | "ModuleNotFoundError" => [("name", .nothing), ("msg", details.headD .nothing)]
  | "OSError" => system
  | "UnicodeDecodeError" | "UnicodeEncodeError" =>
      [("encoding", (details[0]?).getD .nothing), ("object", (details[1]?).getD .nothing),
       ("start", (details[2]?).getD .nothing), ("end", (details[3]?).getD .nothing),
       ("reason", (details[4]?).getD .nothing)]
  | _ => []

/-- The kind of fault that a kind is a special case of. -/
def widerFault? (kind : String) : Option String :=
  match kind with
  | "Exception" | "SystemExit" | "KeyboardInterrupt" | "GeneratorExit" => some "BaseException"
  | "OSError" | "LookupError" | "ValueError" | "TypeError" | "ArithmeticError" | "NameError"
  | "AttributeError" | "RuntimeError" | "AssertionError" | "ImportError" | "StopIteration"
  | "StopAsyncIteration" | "EOFError" | "SyntaxError" | "Warning" | "MemoryError"
  | "BufferError" | "ReferenceError" | "SystemError" => some "Exception"
  | "FileNotFoundError" | "FileExistsError" | "NotADirectoryError" | "IsADirectoryError"
  | "PermissionError" | "BlockingIOError" | "ConnectionError" | "InterruptedError"
  | "ProcessLookupError" | "TimeoutError" | "ChildProcessError" | "UnsupportedOperation" =>
      some "OSError"
  | "BrokenPipeError" | "ConnectionAbortedError" | "ConnectionRefusedError"
  | "ConnectionResetError" => some "ConnectionError"
  | "IndexError" | "KeyError" => some "LookupError"
  | "UnicodeError" => some "ValueError"
  | "UnicodeDecodeError" | "UnicodeEncodeError" | "UnicodeTranslateError" => some "UnicodeError"
  | "ZeroDivisionError" | "OverflowError" | "FloatingPointError" => some "ArithmeticError"
  | "UnboundLocalError" => some "NameError"
  | "NotImplementedError" | "RecursionError" => some "RuntimeError"
  | "ModuleNotFoundError" => some "ImportError"
  | "IndentationError" => some "SyntaxError"
  | "TabError" => some "IndentationError"
  | "DeprecationWarning" | "UserWarning" | "RuntimeWarning" | "FutureWarning" | "SyntaxWarning"
  | "ImportWarning" | "UnicodeWarning" | "BytesWarning" | "ResourceWarning"
  | "PendingDeprecationWarning" | "EncodingWarning" => some "Warning"
  | _ => none

def isFaultKind (kind : String) : Bool :=
  kind = "BaseException" || (widerFault? kind).isSome

def widerFaults : (fuel : Nat) → (kind : String) → List String
  | 0, kind => [kind]
  | fuel + 1, kind =>
      match widerFault? kind with
      | some wider => kind :: widerFaults fuel wider
      | none => [kind]

def faultKinds : List String :=
  ["BaseException", "Exception", "SystemExit", "KeyboardInterrupt", "GeneratorExit", "OSError",
   "LookupError", "ValueError", "TypeError", "ArithmeticError", "NameError", "AttributeError",
   "RuntimeError", "AssertionError", "ImportError", "StopIteration", "StopAsyncIteration",
   "EOFError", "SyntaxError", "Warning", "MemoryError", "BufferError", "ReferenceError",
   "SystemError", "FileNotFoundError", "FileExistsError", "NotADirectoryError",
   "IsADirectoryError", "PermissionError", "BlockingIOError", "ConnectionError",
   "InterruptedError", "ProcessLookupError", "TimeoutError", "ChildProcessError",
   "BrokenPipeError", "ConnectionAbortedError", "ConnectionRefusedError",
   "ConnectionResetError", "IndexError", "KeyError", "UnicodeError", "UnicodeDecodeError",
   "UnicodeEncodeError", "UnicodeTranslateError", "ZeroDivisionError", "OverflowError",
   "FloatingPointError", "UnboundLocalError", "NotImplementedError", "RecursionError",
   "ModuleNotFoundError", "IndentationError", "TabError", "DeprecationWarning", "UserWarning",
   "RuntimeWarning", "FutureWarning", "SyntaxWarning", "ImportWarning", "UnicodeWarning",
   "BytesWarning", "ResourceWarning", "PendingDeprecationWarning", "EncodingWarning"]

def faultSteps : Nat := 8

def isFaultWithin (wider kind : String) : Bool := (widerFaults faultSteps kind).contains wider

def plainFaultKind (kind : String) : String :=
  if kind = "IOError" ∨ kind = "EnvironmentError" then "OSError" else kind

def newFaultOf (family : Value) (kind : String) (details : List Value) : Eval Value := do
  let isSystem := isFaultWithin "OSError" kind
  let shown := if isSystem ∧ 3 ≤ details.length then details.take 2 else details
  let attributes := faultAttributes (if isSystem then "OSError" else kind) details
  newEntity { kind := family, attributes := ("args", .tuple shown) :: attributes }

def newFault (kind : String) (details : List Value) : Eval Value :=
  newFaultOf (.kind kind) kind details

def raise {α : Type} (kind : String) (details : List Value) : Eval α := do
  throw (.fault (← newFault kind details))

def fail {α : Type} (kind text : String) : Eval α := raise kind [.ofString text]

def typeFault {α : Type} (text : String) : Eval α := fail "TypeError" text

def valueFault {α : Type} (text : String) : Eval α := fail "ValueError" text

def systemFaultKind : SystemFault → String
  | .notFound => "FileNotFoundError"
  | .alreadyExists => "FileExistsError"
  | .notDirectory => "NotADirectoryError"
  | .isDirectory => "IsADirectoryError"
  | _ => "OSError"

def refuse {α : Type} (fault : SystemFault) (paths : List Value) : Eval α :=
  match fault.number? with
  | some number =>
      let paths :=
        match paths with
        | [first, second] => [first, .nothing, second]
        | paths => paths
      raise (systemFaultKind fault) (.ofNat number :: .ofString fault.wording :: paths)
  | none => fail "ValueError" "embedded null byte"

/-! ## Work -/

def job {α : Type} (task : Job α) : Eval (Option α) := do
  let machine ← get
  let (outcome, work) := StateT.run (ExceptT.run task) machine.work
  set { machine with work }
  return outcome.toOption

def deliver (complaint : Bool) (octets : Octets) : Eval PUnit :=
  modify fun machine =>
    { machine with work := { machine.work with
        printed := (complaint, octets) :: machine.work.printed } }

def host : Eval Host := return (← get).work.host

def setHost (host : Host) : Eval PUnit :=
  modify fun machine => { machine with work := { machine.work with host } }

end Eval

end BuiltinWrappers.Script.Indented
