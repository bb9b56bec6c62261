import BuiltinWrappers.Script.Indented.Native.Files

/-!
# Commands that scripts start

A command is run to its end before the script goes on.
-/

namespace BuiltinWrappers.Script.Indented

open Text (Octets)

variable [Evaluator]

namespace Native.Commands

def wordOf (value : Value) : Eval Octets := do
  match ← Kinds.core value with
  | .bytes octets => return octets
  | _ => return encoded (← Routine.pathText value)

def assignments (address : Nat) : Eval (List Octets) := do
  (← Eval.entriesAt address).mapM fun (name, value) => do
    return (← wordOf name) ++ '=' :: (← wordOf value)

def withVariables (environment : Value) (words : List Octets) : Eval (List Octets) := do
  let front : List Octets := ["env".toList, "-i".toList]
  match environment with
  | .dictionary address => return front ++ (← assignments address) ++ words
  | _ =>
      let now ← assignments Place.environment
      let before := (← get).work.environment.map fun (name, value) => name ++ '=' :: value
      return if now = before then words else front ++ now ++ words

def joinedWords (words : List Octets) : List Octets :=
  "sh".toList :: "-c".toList :: "exec \"$@\" 2>&1".toList :: "sh".toList :: words

def endsWith (outcome : Outcome) (name : Octets) (fault : String) : Bool :=
  let text := name ++ fault.toList
  text.isSuffixOf outcome.complaints || text.isSuffixOf outcome.output

def isMissing (name : Octets) (outcome : Outcome) : Bool :=
  outcome.status = 127 && endsWith outcome name ": not found\n"

def isForbidden (name : Octets) (outcome : Outcome) : Bool :=
  outcome.status = 126 && endsWith outcome name ": Permission denied\n"

/-- Run a command in a directory; its status, its output and its complaints. -/
def run (words : List Value) (input environment directory : Value) (isJoined : Bool) :
    Eval Value := do
  Channel.settle
  let names ← words.mapM wordOf
  let before := (← Eval.host).workingDirectory
  match directory with
  | .nothing => pure ()
  | directory => Files.changeDirectory directory
  let text ←
    match ← Kinds.core input with
    | .bytes octets => pure octets
    | .nothing => pure (← get).work.input
    | _ => pure []
  let words ← withVariables environment (if isJoined then joinedWords names else names)
  let outcome := (← get).commands words text (← Eval.host)
  Eval.setHost { outcome.host with workingDirectory := before }
  let name := names.headD []
  let shown := [(words.head?.map fun _ => Value.text (Coding.ofSystem name)).getD .nothing]
  if isMissing name outcome then Eval.refuse .notFound shown
  if isForbidden name outcome then
    Eval.raise "PermissionError" ([.integer 13, .ofString "Permission denied"] ++ shown)
  return .tuple [.ofNat outcome.status, .bytes outcome.output, .bytes outcome.complaints]

def show_ (number : Int) (octets : Octets) : Eval PUnit :=
  Eval.deliver (number = 2) octets

def names : List String := ["_run", "_show"]

def call (name : String) (arguments : Arguments) : Eval Value := do
  match name with
  | "_run" =>
      let part (index : Nat) : Value := (arguments.plain[index]?).getD .nothing
      run (← Protocol.items (part 0)) (part 1) (part 2) (part 3) (← Protocol.isTrue (part 4))
  | "_show" =>
      show_ (← arguments.integer 0 "fd" 1) (← Files.octetsOf (← arguments.value 1 "data"))
      return .nothing
  | name => Eval.fail "NameError" ("name '" ++ name ++ "' is not defined")

end Native.Commands

end BuiltinWrappers.Script.Indented
