import BuiltinWrappers.Script.Indented.Native.Commands
import BuiltinWrappers.Script.Indented.Native.Contents
import BuiltinWrappers.Script.Indented.Native.Patterns
import BuiltinWrappers.Script.Indented.Native.Reals

/-!
# Native libraries

The routines and values that no script could define, by the libraries that they
belong to.
-/

namespace BuiltinWrappers.Script.Indented

variable [Evaluator]

namespace Native

/-! ## The interpreter -/

def handledFault : Eval Value := do
  match (← get).handled.head? with
  | some fault => return .tuple [← Kinds.kindOf fault, fault, .nothing]
  | none => return .tuple [.nothing, .nothing, .nothing]

def interpreterNames : List String := ["exc_info", "getsizeof", "getrefcount"]

def callInterpreter (name : String) (arguments : Arguments) : Eval Value := do
  match name with
  | "exc_info" => handledFault
  | "getsizeof" =>
      let size ← Protocol.sizeOf? (← arguments.value 0 "object")
      return .ofNat (56 + 8 * size.getD 0)
  | "getrefcount" => return .integer 2
  | name => Eval.fail "NameError" ("name '" ++ name ++ "' is not defined")

/-! ## All libraries -/

def routines (library : String) (names : List String) : List (String × Value) :=
  names.map fun name => (name, .routine (library ++ "." ++ name))

def entries? (library : String) : Option (List (String × Value)) :=
  match library with
  | "posix" =>
      some (("environ", .dictionary Place.environment) ::
        routines library (Files.names ++ Commands.names))
  | "_sys" => some (routines library interpreterNames)
  | "_sre" => some (routines library Patterns.names)
  | "_contents" => some (routines library Contents.names)
  | "_reals" => some (routines library Reals.names)
  | "_io" =>
      let kinds := Kinds.channelKinds ++ Kinds.widerChannelKinds ++ ["UnsupportedOperation"]
      some (kinds.map fun kind => (kind, .kind kind))
  | _ => none

def call (name : String) (arguments : Arguments) : Eval Value := do
  let library := name.toList.takeWhile (· ≠ '.')
  let own := String.ofList (name.toList.drop (library.length + 1))
  match String.ofList library with
  | "posix" =>
      if Commands.names.contains own then Commands.call own arguments
      else Files.call own arguments
  | "_sre" => Patterns.call own arguments
  | "_contents" => Contents.call own arguments
  | "_reals" => Reals.call own arguments
  | _ => callInterpreter own arguments

end Native

end BuiltinWrappers.Script.Indented
