import BuiltinWrappers.Host.FileTree

/-!
# Hosts

What a run can see and change: the file tree, the working directory, the
environment variables, and what was printed to standard output so far.

A file may have several names, which are kept as aliases of each other.  Whatever
is written under one of them is read under all.
-/

namespace BuiltinWrappers

abbrev Environment := Std.ExtTreeMap String String

/-- The mask holds the bits that the mode of a new node does not get. -/
structure Host where
  tree : FileTree := .empty
  workingDirectory : Location := []
  environment : Environment := ∅
  printed : String := ""
  aliases : List (List Location) := []
  creationMask : Nat := 0o022

namespace Host

def print (host : Host) (text : String) : Host :=
  { host with printed := host.printed ++ text }

def readText (host : Host) (path : String) : Except SystemFault String :=
  host.tree.readText host.workingDirectory path

/-! ## Writing files -/

def namesOf (host : Host) (location : Location) : List Location :=
  (host.aliases.find? (·.contains location)).getD [location]

def store (host : Host) (location : Location) (node : Node) : Host :=
  { host with
    tree := (host.namesOf location).foldl (fun tree name => tree.set name node) host.tree }

def maskedMode (host : Host) (mode : Nat) : Nat := mode ^^^ (mode &&& host.creationMask)

def newFile (host : Host) (content : ByteArray) : Node := .file content (host.maskedMode 0o666)

def replaceContent (host : Host) (location : Location) (content : ByteArray) :
    Except SystemFault Host :=
  match host.tree.node? location with
  | some (.directory _) => .error .isDirectory
  | some (.file _ mode) => .ok (host.store location (.file content mode))
  | some (.link _) | none => .ok (host.store location (host.newFile content))

def writeBytes (host : Host) (path : String) (content : ByteArray) :
    Except SystemFault Host := do
  host.replaceContent (← host.tree.resolve host.workingDirectory path) content

def write (host : Host) (path content : String) : Except SystemFault Host :=
  host.writeBytes path content.toUTF8

end Host

/-! ## Hooks -/

abbrev Hook := String → Host → Host

namespace Hook

def none : Hook := fun _ host => host

/-- Print each path with a NUL behind it, as no path can hold one. -/
def printPaths : Hook := fun path host => host.print (path ++ "\x00")

end Hook

end BuiltinWrappers
