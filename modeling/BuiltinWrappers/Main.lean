import BuiltinWrappers.Run

/-!
# Entry point

What the paths of a run pass through is loaded into a file tree, the program runs on
that tree, and the files that it changed there are written to disk.  No license
script is started from here, as on a host where none may be executed.
-/

namespace BuiltinWrappers

/-! ## Loading -/

/-- What stands on disk at a location.  A link counts as one to the place where it ends. -/
def diskNode? (location : Location) : IO (Option Node) := do
  let path := (← IO.currentDir) / FileTree.pathTo location
  try
    match (← path.symlinkMetadata).type with
    | .dir => return some (.directory 0o755)
    | .file => return some (.file (← IO.FS.readBinFile path) 0o644)
    | .symlink => return some (.link (← IO.FS.realPath path).toString)
    | .other => return none
  catch _ => return none

def loadNode (tree : FileTree) (location : Location) : IO FileTree := do
  if (tree.node? location).isSome then return tree
  match ← diskNode? location with
  | none => return tree
  | some node => return tree.set location node

def loadDownTo (tree : FileTree) (location : Location) : IO FileTree :=
  (List.range location.length).foldlM
    (fun tree depth => loadNode tree (location.take (depth + 1))) tree

def locationOf (path : String) : Location := (FileTree.pathNames path).filter (· ≠ "")

def loadEntry (tree : FileTree) (location : Location) : IO FileTree := do
  let tree ← loadNode tree location
  match tree.node? location with
  | some (.link target) => loadDownTo tree (locationOf target)
  | _ => return tree

/-- Load everything that a path passes through, and what it leads to. -/
def loadAlong (host : Host) (path : String) : IO Host := do
  let mut tree := host.tree
  let mut location := if Path.isAbsolute path then [] else host.workingDirectory
  for name in FileTree.pathNames path do
    match tree.walk false FileTree.mostLinks location [name] with
    | .error _ => break
    | .ok entry =>
        tree ← loadEntry tree entry
        match tree.walk true FileTree.mostLinks location [name] with
        | .error _ => break
        | .ok next => location := next
  return { host with tree }

def processEnvironment : IO Environment := do
  let content ← try IO.FS.readBinFile "/proc/self/environ" catch _ => pure .empty
  let assignments := (content.toList.splitOn 0).filterMap fun bytes => do
    let text ← String.fromUTF8? ⟨bytes.toArray⟩
    let name := text.toList.takeWhile (· ≠ '=')
    let value := (text.toList.dropWhile (· ≠ '=')).tail
    if name.isEmpty then none else some (String.ofList name, String.ofList value)
  return .ofList assignments

/-- The host of this process, with the directories down to its working directory. -/
def currentHost : IO Host := do
  let workingDirectory := locationOf (← IO.currentDir).toString
  return {
    tree := ← loadDownTo .empty workingDirectory
    workingDirectory
    environment := ← processEnvironment }

/-- Load what the run of an invocation looks at. -/
def loadFor (invocation : Invocation) (host : Host) : IO Host := do
  let mut host := host
  for directory in EnvironmentFile.ancestors host.workingDirectory do
    host ← loadAlong host (FileTree.pathTo (directory ++ [EnvironmentFile.fileName]))
  for path in invocation.input.toList ++ invocation.settingsFile.toList do
    host ← loadAlong host path
  match findRoot invocation.root host with
  | .error _ => return host
  | .ok root =>
      for header in [Header.runtime, .compiler] do
        host ← loadAlong host (header.pathIn root)
      return host

/-! ## Writing -/

/-- The runtime header comes after the compiler header in the tree, but is written first. -/
def writeChanges (before after : FileTree) : IO Unit := do
  for (location, node) in after.nodes.toList.reverse do
    if before.nodes[location]? ≠ some node then
      if let .file content _ := node then
        IO.FS.writeBinFile (FileTree.pathTo location) content

end BuiltinWrappers

open BuiltinWrappers in
def main (arguments : List String) : IO UInt32 := do
  let start ← currentHost
  let loaded ←
    match CommandLine.parse arguments start.environment with
    | .error _ => pure start
    | .ok invocation => loadFor invocation start
  let (code, after) := programWith .none arguments loaded
  writeChanges loaded.tree after.tree
  IO.print after.printed
  return UInt32.ofNat code
