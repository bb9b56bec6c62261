import BuiltinWrappers.Text.Quoted
import BuiltinWrappers.Toml.Value

/-!
# Overrides of the settings

What a settings document may give in place of the defaults: the two lists of
names and the wrapper prefix.  A section is a table, or an array that gives its
fields in order.  Unknown keys and values of the wrong kind are faults, as are
numbers without a value, and the first one in order of the keys counts.
-/

namespace BuiltinWrappers

open Toml (Value)

structure Overrides where
  delegated : Option (List String) := none
  rewritten : Option (List String) := none
  wrapperPrefix : Option String := none
  deriving DecidableEq, Repr

/-! ## Faults -/

inductive Expectation where
  | list
  | text
  | builtinsSection
  | outputSection
  deriving DecidableEq, Repr

inductive SchemaFault where
  | unknownField (key : String) (known : List String)
  | unexpected (found : Value) (expected : Expectation)
  | tooFewFields (given : Nat) (expected : Expectation)
  | valuelessNumber
  deriving Repr

def Expectation.description : Expectation → String
  | .list => "a sequence"
  | .text => "a string"
  | .builtinsSection => "struct BuiltinsSection"
  | .outputSection => "struct OutputSection"

def Expectation.fieldCount : Expectation → String
  | .builtinsSection => " with 2 elements"
  | .outputSection => " with 1 element"
  | .list | .text => ""

def inBackquotes (text : String) : String := "`" ++ text ++ "`"

/-- The type that an integer is shown with if it takes more than 64 bits. -/
def wideType (value : Int) : String :=
  if 170141183460469231731687303715884105727 < value then " as u128"
  else if value < -9223372036854775808 ∨ 18446744073709551615 < value then " as i128"
  else ""

def numberDescription : Toml.Number → String
  | .integer value => "integer " ++ inBackquotes (Int.repr value) ++ wideType value
  | .float value => "floating point " ++ inBackquotes value.text
  | .valueless => "number"

/-- How a fault names a value that it did not expect. -/
def valueDescription : Value → String
  | .string text => "string " ++ Text.quoted text
  | .number value => numberDescription value
  | .boolean value => "boolean " ++ inBackquotes (if value then "true" else "false")
  | .array _ => "sequence"
  | .moment _ | .table _ => "map"

def SchemaFault.message : SchemaFault → String
  | .unknownField key known =>
      "unknown field " ++ inBackquotes key ++ ", expected " ++
        " or ".intercalate (known.map inBackquotes)
  | .unexpected found expected =>
      "invalid type: " ++ valueDescription found ++ ", expected " ++ expected.description
  | .tooFewFields given expected =>
      "invalid length " ++ Nat.repr given ++ ", expected " ++ expected.description ++
        expected.fieldCount
  | .valuelessNumber => "syntax"

/-! ## Reading a document -/

namespace Overrides

/-- The fault of a value that is not what the schema expects. -/
def unfit (found : Value) (expected : Expectation) : SchemaFault :=
  match found with
  | .number .valueless => .valuelessNumber
  | _ => .unexpected found expected

def text : Value → Except SchemaFault String
  | .string text => .ok text
  | other => .error (unfit other .text)

def names : Value → Except SchemaFault (List String)
  | .array items => items.mapM text
  | other => .error (unfit other .list)

/-- A moment stands for a table with this one key. -/
def momentKey : String := "$__toml_private_datetime"

def builtinsFields : List String := ["delegated", "rewritten"]

def outputFields : List String := ["wrapper_prefix"]

def sections : List String := ["builtins", "output"]

def builtinsField (overrides : Overrides) (key : String) (value : Value) :
    Except SchemaFault Overrides :=
  if key = "delegated" then do
    return { overrides with delegated := some (← names value) }
  else if key = "rewritten" then do
    return { overrides with rewritten := some (← names value) }
  else .error (.unknownField key builtinsFields)

def builtinsSection (overrides : Overrides) : Value → Except SchemaFault Overrides
  | .table entries =>
      entries.foldlM (fun overrides (key, value) => overrides.builtinsField key value)
        overrides
  | .array (first :: second :: _) => do
      let delegated ← names first
      let rewritten ← names second
      return { overrides with delegated := some delegated, rewritten := some rewritten }
  | .array [first] => do
      let _ ← names first
      .error (.tooFewFields 1 .builtinsSection)
  | .array [] => .error (.tooFewFields 0 .builtinsSection)
  | .moment _ => .error (.unknownField momentKey builtinsFields)
  | other => .error (unfit other .builtinsSection)

def outputField (overrides : Overrides) (key : String) (value : Value) :
    Except SchemaFault Overrides :=
  if key = "wrapper_prefix" then do
    return { overrides with wrapperPrefix := some (← text value) }
  else .error (.unknownField key outputFields)

def outputSection (overrides : Overrides) : Value → Except SchemaFault Overrides
  | .table entries =>
      entries.foldlM (fun overrides (key, value) => overrides.outputField key value)
        overrides
  | .array (first :: _) => do
      return { overrides with wrapperPrefix := some (← text first) }
  | .array [] => .error (.tooFewFields 0 .outputSection)
  | .moment _ => .error (.unknownField momentKey outputFields)
  | other => .error (unfit other .outputSection)

def sectionField (overrides : Overrides) (key : String) (value : Value) :
    Except SchemaFault Overrides :=
  if key = "builtins" then overrides.builtinsSection value
  else if key = "output" then overrides.outputSection value
  else .error (.unknownField key sections)

def ofTable (table : Toml.Table) : Except SchemaFault Overrides :=
  table.foldlM (fun overrides (key, value) => overrides.sectionField key value) {}

end Overrides

end BuiltinWrappers
