import BuiltinWrappers.CommandLine
import BuiltinWrappers.Host.EnvironmentFile
import BuiltinWrappers.Generation
import BuiltinWrappers.License
import BuiltinWrappers.Settings.File

/-!
# Runs

One run reads the input and the settings file that its invocation names, finds
the root, and generates the headers.  The exit code and standard output tell how
it went.
-/

namespace BuiltinWrappers

/-! ## The root -/

def rootVariable : String := "CHPL_HOME"

/-- An explicit root counts first, then the environment, then the environment file. -/
def findRoot (explicit : Option String) (host : Host) : Except Fault String :=
  match explicit with
  | some root => .ok root
  | none =>
      match EnvironmentFile.environment? host with
      | none => .error .unstorableVariable
      | some environment =>
          match environment[rootVariable]? with
          | some root => .ok root
          | none => .error (.unsetVariable rootVariable)

namespace Invocation

/-- The environment that a license script gets. -/
def scriptEnvironment (invocation : Invocation) (host : Host) : Environment :=
  if invocation.root.isSome then host.environment
  else (EnvironmentFile.environment? host).getD host.environment

def hook (license : License) (invocation : Invocation) (root : String) (host : Host) : Hook :=
  if invocation.skipLicense then .none
  else license.hook root (invocation.scriptEnvironment host)

def settings (invocation : Invocation) (host : Host) : Except Fault Settings := do
  let settings ←
    match invocation.settingsFile with
    | none => pure {}
    | some path => Settings.ofFile host path
  let root ← findRoot invocation.root host
  return { settings with root }

def runWith (license : License) (invocation : Invocation) (host : Host) :
    Except Fault Report × Host :=
  match invocation.input with
  | none => (.error .missingInput, host)
  | some input =>
      match invocation.settings host with
      | .error fault => (.error fault, host)
      | .ok settings =>
          settings.generate input (invocation.hook license settings.root host) host

end Invocation

/-! ## Exit codes and output -/

def versionText : String := "clang-builtin-gen 0.1.0\n"

/-- The options in short, in a wording of this library's own. -/
def helpText : String :=
  "Usage: clang-builtin-gen [OPTIONS] [INPUT]\n\n" ++
  "  --chpl-home <DIR>    installation root the headers are written under\n" ++
  "  -c, --config <FILE>  settings that override the curated lists and the prefix\n" ++
  "  --no-license         leave the generated headers without a license\n" ++
  "  -v, --verbose        log more, once for each time the flag is given\n" ++
  "  -q, --quiet          log errors only\n" ++
  "  -h, --help           print this help\n" ++
  "  -V, --version        print the version\n"

def Report.savedLines (report : Report) : String :=
  String.join (report.files.map fun file =>
    file.header.label ++ " saved to " ++ file.path ++ "\n")

/-- Run the program on its arguments: the exit code, and the host afterwards. -/
def programWith (license : License) (arguments : List String) (host : Host) : Nat × Host :=
  match CommandLine.parse arguments host.environment with
  | .error .displayHelp => (0, host.print helpText)
  | .error .displayVersion => (0, host.print versionText)
  | .error _ => (2, host)
  | .ok invocation =>
      match invocation.runWith license host with
      | (.ok report, host) => (0, host.print report.savedLines)
      | (.error fault, host) =>
          (fault.exitCode, if fault.concernsUser then host.print (fault.message ++ "\n") else host)

end BuiltinWrappers
