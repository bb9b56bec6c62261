import BuiltinWrappers.Fault
import BuiltinWrappers.Host
import BuiltinWrappers.Toml.Document

/-!
# Settings files

A settings file overrides the defaults field by field, and the outcome must be
valid.  The root never comes from a file.
-/

namespace BuiltinWrappers

def Settings.withOverrides (settings : Settings) (overrides : Overrides) : Settings :=
  { settings with
    delegated := overrides.delegated.getD settings.delegated
    rewritten := overrides.rewritten.getD settings.rewritten
    wrapperPrefix := overrides.wrapperPrefix.getD settings.wrapperPrefix }

namespace Settings

def ofTable (table : Toml.Table) : Except Fault Settings :=
  match Overrides.ofTable table with
  | .error cause => .error (.document (.schema cause))
  | .ok overrides =>
      let settings := ({} : Settings).withOverrides overrides
      match settings.check with
      | .error cause => .error (.settings cause)
      | .ok () => .ok settings

def ofText (text : String) : Except Fault Settings :=
  match Toml.document? text.toList with
  | none => .error (.document .malformed)
  | some table => ofTable table

def ofFile (host : Host) (path : String) : Except Fault Settings :=
  match host.readText path with
  | .error cause => .error (.inputOutput cause)
  | .ok text => ofText text

end Settings

end BuiltinWrappers
