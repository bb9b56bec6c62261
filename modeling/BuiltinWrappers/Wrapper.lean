import BuiltinWrappers.Builtin.Eligibility
import BuiltinWrappers.Builtin.Signature

/-!
# Wrappers

A wrapper is an inline C function that passes its parameters on to a builtin.
Its types come from the signature of the library declaration: the first is the
return type, and the others are parameters named by their position.
-/

namespace BuiltinWrappers

structure Parameter where
  type : String
  name : String
  deriving DecidableEq, Repr

structure Wrapper where
  name : String
  returnType : String
  parameters : List Parameter
  deriving DecidableEq, Repr

/-- The macro that puts the wrapper prefix in front of a function's name. -/
def prefixingMacro : String := "ADD_WRAPPER_PREFIX"

namespace Wrapper

def parameterName (index : Nat) : String := "arg" ++ Nat.repr index

def ofDeclaration (library : Declaration) : Except Obstacle Wrapper :=
  match Signature.types library.signature with
  | [] => .error (.emptySignature library.signature)
  | returnType :: types =>
      .ok {
        name := library.name
        returnType
        parameters := types.zipIdx.map fun (type, index) =>
          ⟨type, parameterName index⟩ }

def parameterList (wrapper : Wrapper) : String :=
  ", ".intercalate (wrapper.parameters.map fun parameter =>
    parameter.type ++ " " ++ parameter.name)

def argumentList (wrapper : Wrapper) : String :=
  ", ".intercalate (wrapper.parameters.map Parameter.name)

def render (wrapper : Wrapper) : String :=
  "static inline " ++ wrapper.returnType ++ " " ++ prefixingMacro ++
    "(" ++ wrapper.name ++ ")(" ++ wrapper.parameterList ++ ")\n\x7b\n  return " ++
    builtinName wrapper.name ++ "(" ++ wrapper.argumentList ++ ");\n\x7d\n"

end Wrapper

/-- The wrapper of a name, built from its library declaration alone. -/
def Catalog.wrapper (catalog : Catalog) (name : String) :
    Except Obstacle Wrapper :=
  catalog.eligible name >>= Wrapper.ofDeclaration

end BuiltinWrappers
