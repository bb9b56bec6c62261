import BuiltinWrappers.Script.Indented.Body
import BuiltinWrappers.Script.Indented.Library
import BuiltinWrappers.Script.Indented.Native

/-!
# Loading libraries

A library is run once, in a scope of its own, when it is first asked for.  Files
beside the script come before the libraries that are always there, except for the
few that every run needs.
-/

namespace BuiltinWrappers.Script.Indented

open Text (Octets)

variable [Evaluator]

namespace Loading

/-! ## Texts of scripts -/

def plainLineEnds : List Char → List Char := Channel.plainLineEnds

/-- The characters of a script, unless they are in no known coding. -/
def scriptText? (octets : Octets) : Option (List Char) := do
  let text ← String.fromUTF8? (Octets.toBytes octets)
  let characters := text.toList
  if characters.contains '\x00' then none
  else
    let characters := if characters.head? = some '\ufeff' then characters.tail else characters
    some (plainLineEnds characters)

/-! ## Sources -/

inductive Source where
  | native (entries : List (String × Value))
  | text (characters : List Char)
  | file (path : List Char) (isPackage : Bool) (octets : Octets)

def isFirst (name : String) : Bool :=
  ["sys", "builtins", "os", "io", "abc", "stat", "codecs", "posix", "time", "math", "errno",
   "itertools", "os.path", "posixpath", "_io", "marshal", "gc", "atexit"].contains name

def fileContent? (path : String) : Eval (Option Octets) := do
  match (← Eval.host).locate path with
  | .ok (_, some (.file content _)) => return some (Octets.ofBytes content)
  | _ => return none

def inDirectory? (name : String) (directory : List Char) : Eval (Option Source) := do
  let front := if directory.isEmpty then "" else String.ofList directory ++ "/"
  let package := front ++ name ++ "/__init__.py"
  let plain := front ++ name ++ ".py"
  match ← fileContent? package, ← fileContent? plain with
  | some octets, _ => return some (.file package.toList true octets)
  | none, some octets => return some (.file plain.toList false octets)
  | none, none =>
      return if (← Eval.host).isDirectoryPath (front ++ name) then
        some (.file (front ++ name ++ "/").toList true []) else none

def inDirectories? (name : String) : List Value → Eval (Option Source)
  | [] => return none
  | directory :: directories => do
      match ← Routine.pathText? directory with
      | none => inDirectories? name directories
      | some path =>
          match ← inDirectory? name path with
          | some source => return some source
          | none => inDirectories? name directories

def directories (parent : Option Value) : Eval (List Value) := do
  let found ←
    match parent with
    | some library => Attributes.lookUp? library "__path__"
    | none => pure (((← Eval.scopeAt? Place.system).map Scope.entries).bind (·.lookup "path"))
  match found with
  | some value => Protocol.items value
  | none => return []

def builtins : List (String × Value) :=
  let names := Routine.names ++ Making.names ++ Eval.faultKinds ++
    ["IOError", "EnvironmentError", "NotImplemented", "Ellipsis"]
  names.filterMap fun name => (Scopes.predefined? name).map (name, ·)

def given? (name : String) : Option Source :=
  if name = "builtins" then some (.native builtins)
  else
    match Library.text? name, Native.entries? name with
    | some text, _ => some (.text text)
    | none, some entries => some (.native entries)
    | none, none => none

def source? (name last : String) (parent : Option Value) : Eval (Option Source) := do
  if isFirst name then return given? name
  match ← inDirectories? last (← directories parent), given? name with
  | some (.file path true []), some source =>
      return if path.getLast? = some '/' then some source else some (.file path true [])
  | some source, _ => return some source
  | none, source => return source

/-! ## Loading -/

def missing {α : Type} (name : String) : Eval α := do
  let fault ← Eval.newFault "ModuleNotFoundError"
    [.ofString ("No module named '" ++ name ++ "'")]
  Attributes.setOwn fault "name" (.ofString name)
  throw (.fault fault)

def register (name : String) (address : Nat) : Eval PUnit := do
  modify fun machine => { machine with libraries := (name, address) :: machine.libraries }
  if let some scope := ← Eval.scopeAt? Place.system then
    if let some (.dictionary modules) := scope.entries.lookup "modules" then
      Eval.putEntries modules (← Protocol.insert (.ofString name) (.library address)
        (← Eval.entriesAt modules))

def unregister (name : String) : Eval PUnit :=
  modify fun machine => { machine with libraries := machine.libraries.filter (·.1 ≠ name) }

def fill (name : String) (scope : Nat) (text : List Char) : Eval PUnit := do
  match statements? text with
  | none => Eval.fail "SyntaxError" "invalid syntax"
  | some (statements, _) =>
      try Evaluator.run [scope] statements
      catch leap =>
        unregister name
        throw leap

def firstEntries (name : String) : Source → Eval (List (String × Value))
  | .native entries => return ("__name__", .ofString name) :: entries
  | .text _ => return [("__name__", .ofString name)]
  | .file path isPackage _ => do
      let directory := (path.reverse.dropWhile (· ≠ '/')).tail.reverse
      let front := if isPackage then name
        else ".".intercalate (name.splitOn ".").dropLast
      let places ← if isPackage then
          pure [("__path__", ← Eval.newList [.text directory])]
        else pure []
      return [("__name__", .ofString name), ("__file__", .text path),
        ("__package__", .ofString front)] ++ places

def loadNew (name : String) (source : Source) : Eval Value := do
  let scope ←
    if name = "sys" then pure Place.system
    else Eval.allocate (.scope { level := .script, entries := ← firstEntries name source })
  let address ← Eval.allocate (.library name scope)
  register name address
  match source with
  | .native _ => pure ()
  | .text characters => fill name scope characters
  | .file _ _ octets =>
      match scriptText? octets with
      | some characters => fill name scope characters
      | none => Eval.fail "SyntaxError" "source code cannot be read"
  return .library address

def loadParts : List String → Eval Value
  | [] => missing ""
  | last :: front => do
      let name := ".".intercalate (last :: front).reverse
      match (← get).libraries.lookup name with
      | some address => return .library address
      | none =>
          let parent? ← if front.isEmpty then pure none else some <$> loadParts front
          match (← get).libraries.lookup name with
          | some address => return .library address
          | none =>
              match ← source? name last parent? with
              | none => missing name
              | some source =>
                  let library ← loadNew name source
                  if let some parent := parent? then Attributes.setOwn parent last library
                  return library

def load (name : String) : Eval Value := do
  match Library.aliases.lookup name with
  | some other => loadParts (other.splitOn ".").reverse
  | none => loadParts (name.splitOn ".").reverse

end Loading

end BuiltinWrappers.Script.Indented
