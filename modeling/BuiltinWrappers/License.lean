import BuiltinWrappers.Host.Entry

/-!
# Licenses

An installation may bring a script that puts a license on each header.  What the
script does is open, so a run takes it as given.  Only a file that may be executed
can be started, and whether it starts or succeeds is ignored.
-/

namespace BuiltinWrappers

def licenseScriptPath (root : String) : String :=
  Path.join root "util/buildRelease/add_license_to_sources.py"

/-- A file that may be executed stands where the script of a root belongs. -/
def Host.offersScript (host : Host) (root : String) : Bool :=
  match host.locate (licenseScriptPath root) with
  | .ok (_, some node) => node.isFile && node.isExecutable
  | _ => false

/--
What the script of a root does to a host, given the environment that it gets and the
path of a header.
-/
structure License where
  hook : (root : String) → Environment → Hook
  hook_eq_self : ∀ (root : String) (environment : Environment) (path : String) (host : Host),
    host.offersScript root = false → hook root environment path host = host

/-- No script can be started. -/
def License.none : License := ⟨fun _ _ => .none, fun _ _ _ _ _ => rfl⟩

end BuiltinWrappers
