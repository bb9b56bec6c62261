import BuiltinWrappers.Host

/-!
# Command line

Arguments are read from left to right.  A value that stands as an argument of
its own stays pending until the next known option or positional argument, or the
end, so an argument that is not known at all is reported before it.  Variables
of the environment stand in for options that were not given.
-/

namespace BuiltinWrappers

structure Invocation where
  input : Option String := none
  root : Option String := none
  settingsFile : Option String := none
  skipLicense : Bool := false
  quiet : Bool := false
  verbosity : Nat := 0
  deriving DecidableEq, Repr

inductive UsageFault where
  | displayHelp
  | displayVersion
  | unknownArgument
  | invalidValue
  | argumentConflict
  | tooManyValues
  deriving DecidableEq, Repr

/-- The level of the log lines that an invocation asks for. -/
def Invocation.logLevel (invocation : Invocation) : String :=
  if invocation.quiet then "error"
  else
    match invocation.verbosity with
    | 0 => "warn"
    | 1 => "info"
    | 2 => "debug"
    | _ => "trace"

namespace CommandLine

/-! ## Options -/

inductive Flag where
  | skipLicense
  | verbose
  | quiet
  | help
  | version
  deriving DecidableEq, Repr

inductive Slot where
  | input
  | root
  | settingsFile
  deriving DecidableEq, Repr

inductive Choice where
  | flag (flag : Flag)
  | slot (slot : Slot)
  deriving DecidableEq, Repr

def longOption? (name : String) : Option Choice :=
  if name = "chpl-home" then some (.slot .root)
  else if name = "config" then some (.slot .settingsFile)
  else if name = "no-license" then some (.flag .skipLicense)
  else if name = "verbose" then some (.flag .verbose)
  else if name = "quiet" then some (.flag .quiet)
  else if name = "help" then some (.flag .help)
  else if name = "version" then some (.flag .version)
  else none

def shortOption? : Char → Option Choice
  | 'c' => some (.slot .settingsFile)
  | 'v' => some (.flag .verbose)
  | 'q' => some (.flag .quiet)
  | 'h' => some (.flag .help)
  | 'V' => some (.flag .version)
  | _ => none

def slotVariable? : Slot → Option String
  | .input => none
  | .root => some "CHPL_HOME"
  | .settingsFile => some "CLANG_BUILTIN_GEN_CONFIG"

/-! ## Recording what was given -/

def get (slot : Slot) (invocation : Invocation) : Option String :=
  match slot with
  | .input => invocation.input
  | .root => invocation.root
  | .settingsFile => invocation.settingsFile

def set (slot : Slot) (value : String) (invocation : Invocation) : Invocation :=
  match slot with
  | .input => { invocation with input := some value }
  | .root => { invocation with root := some value }
  | .settingsFile => { invocation with settingsFile := some value }

/-- Record a value, which may not be empty and may not be the second of its slot. -/
def store (slot : Slot) (value : String) (invocation : Invocation) :
    Except UsageFault Invocation :=
  if (get slot invocation).isSome then .error .argumentConflict
  else if value = "" then .error .invalidValue
  else .ok (set slot value invocation)

def mostVerbose : Nat := 255

/-- Raise a flag.  Only the verbose one may be raised again. -/
def raise (flag : Flag) (invocation : Invocation) : Except UsageFault Invocation :=
  match flag with
  | .help => .error .displayHelp
  | .version => .error .displayVersion
  | .verbose =>
      .ok { invocation with verbosity := min (invocation.verbosity + 1) mostVerbose }
  | .quiet =>
      if invocation.quiet then .error .argumentConflict
      else .ok { invocation with quiet := true }
  | .skipLicense =>
      if invocation.skipLicense then .error .argumentConflict
      else .ok { invocation with skipLicense := true }

/-! ## Reading one argument -/

/-- A pending slot holds no value while its value is still to come. -/
structure Reading where
  invocation : Invocation := {}
  pending : Option (Slot × Option String) := none
  onlyPositional : Bool := false
  deriving DecidableEq, Repr

namespace Reading

/-- What was given so far, with the pending value checked and recorded. -/
def settle (reading : Reading) : Except UsageFault Invocation :=
  match reading.pending with
  | none => .ok reading.invocation
  | some (_, none) => .error .invalidValue
  | some (slot, some value) => store slot value reading.invocation

def settled (reading : Reading) (invocation : Invocation) : Reading :=
  { reading with invocation, pending := none }

def positional (reading : Reading) (value : String) : Except UsageFault Reading :=
  if reading.invocation.input.isSome ∨ reading.pending.any (·.1 = .input) then
    .error .unknownArgument
  else do
    let invocation ← reading.settle
    return { reading with invocation, pending := some (.input, some value) }

def flag (reading : Reading) (flag : Flag) : Except UsageFault Reading := do
  let invocation ← reading.settle
  return reading.settled (← raise flag invocation)

def slot (reading : Reading) (slot : Slot) (attached : Option String) :
    Except UsageFault Reading := do
  let invocation ← reading.settle
  match attached with
  | some value => return reading.settled (← store slot value invocation)
  | none => return { reading with invocation, pending := some (slot, none) }

/-- A long option, from behind its two dashes. -/
def long (reading : Reading) (text : List Char) : Except UsageFault Reading :=
  let attached : Option String :=
    match text.dropWhile (· ≠ '=') with
    | [] => none
    | _ :: value => some (.ofList value)
  match longOption? (.ofList (text.takeWhile (· ≠ '='))) with
  | none => .error .unknownArgument
  | some (.slot slot) => reading.slot slot attached
  | some (.flag flag) =>
      if attached.isSome then .error .tooManyValues else reading.flag flag

/-- Short options glued together, from behind their dash. -/
def short (reading : Reading) : List Char → Except UsageFault Reading
  | [] => .ok reading
  | character :: rest =>
      match shortOption? character with
      | none => .error .unknownArgument
      | some (.flag flag) => do short (← reading.flag flag) rest
      | some (.slot slot) =>
          match rest with
          | [] => reading.slot slot none
          | '=' :: value => reading.slot slot (some (.ofList value))
          | value => reading.slot slot (some (.ofList value))

/-- An argument that is not an option: the value of a pending slot, or the input. -/
def plain (reading : Reading) (value : String) : Except UsageFault Reading :=
  match reading.pending with
  | some (slot, none) => .ok { reading with pending := some (slot, some value) }
  | _ => reading.positional value

def argument (reading : Reading) (argument : String) : Except UsageFault Reading :=
  if reading.onlyPositional then reading.positional argument
  else
    match argument.toList with
    | ['-', '-'] => .ok { reading with onlyPositional := true }
    | '-' :: '-' :: text => reading.long text
    | '-' :: character :: text => reading.short (character :: text)
    | _ => reading.plain argument

end Reading

/-! ## The whole command line -/

/-- Take the variable of a slot that no option filled. -/
def fillFrom (environment : Environment) (invocation : Invocation) (slot : Slot) :
    Except UsageFault Invocation :=
  match get slot invocation, (slotVariable? slot).bind (environment[·]?) with
  | none, some value => store slot value invocation
  | _, _ => .ok invocation

def parse (arguments : List String) (environment : Environment) :
    Except UsageFault Invocation := do
  let reading ← arguments.foldlM Reading.argument {}
  let given ← reading.settle
  let invocation ← [Slot.root, .settingsFile].foldlM (fillFrom environment) given
  if invocation.quiet ∧ 0 < invocation.verbosity then .error .argumentConflict
  else return invocation

/-! ## Examples -/

example : parse ["-vcx.toml", "--chpl-home=/opt", "in.def"] ∅ =
    .ok ⟨some "in.def", some "/opt", some "x.toml", false, false, 1⟩ := by cbv

example : parse ["", "b"] ∅ = .error .unknownArgument := by cbv

example : parse ["-c", "-q"] ∅ = .error .invalidValue := by cbv

end CommandLine

end BuiltinWrappers
