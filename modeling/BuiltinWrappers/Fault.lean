import BuiltinWrappers.Builtin.Eligibility
import BuiltinWrappers.Settings
import BuiltinWrappers.Settings.Overrides
import BuiltinWrappers.Host.SystemFault

/-!
# Faults of a run

Everything that can end a run early.  A missing input and a name that cannot be
wrapped concern the user, who is told about them on standard output.
-/

namespace BuiltinWrappers

/-! ## Settings documents -/

inductive DocumentFault where
  | malformed
  | schema (cause : SchemaFault)
  deriving Repr

def DocumentFault.message : DocumentFault → String
  | .malformed => "syntax"
  | .schema cause => cause.message

/-! ## Runs -/

inductive Fault where
  | inputOutput (cause : SystemFault)
  | unreadableInput (path : String) (cause : SystemFault)
  | document (cause : DocumentFault)
  | settings (cause : SettingsFault)
  | unsetVariable (name : String)
  | unstorableVariable
  | missingInput
  | notWrappable (name : String) (obstacle : Obstacle)
  deriving Repr

namespace Fault

def message : Fault → String
  | .inputOutput cause => "IO error: " ++ cause.message
  | .unreadableInput path cause => "Failed to read " ++ path ++ ": " ++ cause.message
  | .document cause => "TOML error: " ++ cause.message
  | .settings cause => "Configuration error: " ++ cause.message
  | .unsetVariable name => "Environment variable not set: " ++ name
  | .unstorableVariable => "Environment variable cannot hold a NUL"
  | .missingInput => "No input file provided"
  | .notWrappable name obstacle =>
      "Cannot generate wrapper for " ++ name ++ ": " ++ obstacle.message

def concernsUser : Fault → Bool
  | .missingInput | .notWrappable _ _ => true
  | _ => false

/-- A variable that cannot be stored breaks the run off; other faults end it in order. -/
def exitCode : Fault → Nat
  | .unstorableVariable => 101
  | _ => 1

end Fault

end BuiltinWrappers
