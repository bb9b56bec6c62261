import BuiltinWrappers.Host.Path
import BuiltinWrappers.Host.SystemFault
import Std.Data.ExtTreeMap

/-!
# File trees

A tree of files, directories and symbolic links.  Each node is kept under its
location, the list of names that leads to it from the top, so trees with the
same nodes are equal.  A path is resolved name by name: every name but the last
must lead to a directory, and a link on the way leads where its target does.
-/

namespace BuiltinWrappers

-- More than one instance may be in scope here, so the one for contents is named.
instance decidableEqContent : DecidableEq ByteArray := ByteArray.instDecidableEq

/-- What stands at a location.  The mode of a node tells in bits who may do what with it. -/
inductive Node where
  | file (content : ByteArray) (mode : Nat)
  | directory (mode : Nat)
  | link (target : String)
  deriving DecidableEq

namespace Node

def isFile : Node → Bool
  | .file _ _ => true
  | .directory _ | .link _ => false

def isDirectory : Node → Bool
  | .directory _ => true
  | .file _ _ | .link _ => false

def isLink : Node → Bool
  | .link _ => true
  | .file _ _ | .directory _ => false

def mode : Node → Nat
  | .file _ mode | .directory mode => mode
  | .link _ => 0o777

def withMode (mode : Nat) : Node → Node
  | .file content _ => .file content mode
  | .directory _ => .directory mode
  | .link target => .link target

def isExecutable (node : Node) : Bool := node.mode &&& 0o111 != 0

/-- How many bytes a node takes; a directory takes one block. -/
def size : Node → Nat
  | .file content _ => content.size
  | .directory _ => 4096
  | .link target => target.utf8ByteSize

end Node

abbrev Location := List String

structure FileTree where
  nodes : Std.ExtTreeMap Location Node
  deriving DecidableEq

namespace FileTree

def empty : FileTree := ⟨∅⟩

def topDirectory : Node := .directory 0o755

def node? (tree : FileTree) (location : Location) : Option Node :=
  if location = [] then some topDirectory else tree.nodes[location]?

def set (tree : FileTree) (location : Location) (node : Node) : FileTree :=
  ⟨tree.nodes.insert location node⟩

def isDirectory (tree : FileTree) (location : Location) : Bool :=
  (tree.node? location).any Node.isDirectory

/-! ## Resolving paths -/

def longestName : Nat := 255

def longestPath : Nat := 4095

def mostLinks : Nat := 40

def pathNames (path : String) : List String :=
  (path.toList.splitOn '/').map String.ofList

def pathTo (location : Location) : String := "/" ++ "/".intercalate location

/--
Follow names from a location, each of which must stand in a directory.  A link
is followed as long as the budget lasts; a link that the last name leads to is
followed only if `through` says so.
-/
def walk (tree : FileTree) (through : Bool) (budget : Nat) (location : Location)
    (names : List String) : Except SystemFault Location :=
  match names with
  | [] => .ok location
  | name :: rest =>
      match tree.node? location with
      | none => .error .notFound
      | some (.file _ _) | some (.link _) => .error .notDirectory
      | some (.directory _) =>
          if name = "" ∨ name = "." then tree.walk through budget location rest
          else if name = ".." then tree.walk through budget location.dropLast rest
          else if longestName < name.utf8ByteSize then .error .nameTooLong
          else
            let child := location ++ [name]
            match tree.node? child with
            | some (.link target) =>
                if rest = [] ∧ !through then .ok child
                else if _left : 0 < budget then
                  let start := if Path.isAbsolute target then [] else location
                  tree.walk through (budget - 1) start (pathNames target ++ rest)
                else .error .tooManyLinks
            | _ => tree.walk through budget child rest
termination_by (budget, names.length)

def resolveFrom (tree : FileTree) (through : Bool) (workingDirectory : Location)
    (path : String) : Except SystemFault Location :=
  if path.toList.contains '\x00' then .error .nulInPath
  else if path = "" then .error .notFound
  else if longestPath < path.utf8ByteSize then .error .nameTooLong
  else
    tree.walk through mostLinks (if Path.isAbsolute path then [] else workingDirectory)
      (pathNames path)

/--
The location that a path names, seen from a working directory.  Nothing need
stand at the location itself.
-/
def resolve (tree : FileTree) (workingDirectory : Location) (path : String) :
    Except SystemFault Location :=
  tree.resolveFrom true workingDirectory path

/-- The location that a path names, even if a link stands there. -/
def resolveEntry (tree : FileTree) (workingDirectory : Location) (path : String) :
    Except SystemFault Location :=
  tree.resolveFrom false workingDirectory path

/-- Follow names as far as the fuel allows, though not all on the way need be there. -/
def walkLeniently (tree : FileTree) : (fuel : Nat) → Location → List String → Location
  | 0, location, names => location ++ names
  | _ + 1, location, [] => location
  | fuel + 1, location, name :: rest =>
      if name = "" ∨ name = "." then tree.walkLeniently fuel location rest
      else if name = ".." then tree.walkLeniently fuel location.dropLast rest
      else
        match tree.node? (location ++ [name]) with
        | some (.link target) =>
            let start := if Path.isAbsolute target then [] else location
            tree.walkLeniently fuel start (pathNames target ++ rest)
        | _ => tree.walkLeniently fuel (location ++ [name]) rest

def resolveLeniently (tree : FileTree) (workingDirectory : Location) (path : String) :
    Location :=
  tree.walkLeniently longestPath (if Path.isAbsolute path then [] else workingDirectory)
    (pathNames path)

/-! ## Reading files -/

def read (tree : FileTree) (workingDirectory : Location) (path : String) :
    Except SystemFault ByteArray := do
  match tree.node? (← tree.resolve workingDirectory path) with
  | none => .error .notFound
  | some (.file content _) => .ok content
  | some (.directory _) => .error .isDirectory
  | some (.link _) => .error .tooManyLinks

def readText (tree : FileTree) (workingDirectory : Location) (path : String) :
    Except SystemFault String := do
  match String.fromUTF8? (← tree.read workingDirectory path) with
  | none => .error .notText
  | some text => .ok text

/-! ## Moving and removing -/

def removeAll (tree : FileTree) (location : Location) : FileTree :=
  ⟨tree.nodes.filter fun place _ => !location.isPrefixOf place⟩

def movedPlace (old new place : Location) : Location :=
  if old.isPrefixOf place then new ++ place.drop old.length else place

def moveAll (tree : FileTree) (old new : Location) : FileTree :=
  let rest := tree.removeAll new
  ⟨.ofList (rest.nodes.toList.map fun (place, node) => (movedPlace old new place, node))⟩

def below (tree : FileTree) (location : Location) : List (Location × Node) :=
  tree.nodes.toList.filter fun (place, _) => location.isPrefixOf place

def children (tree : FileTree) (location : Location) : List String :=
  tree.nodes.keys.filterMap fun place =>
    if place.dropLast = location then place.getLast? else none

def files (tree : FileTree) : List (Location × ByteArray) :=
  tree.nodes.toList.filterMap fun (location, node) =>
    match node with
    | .file content _ => some (location, content)
    | .directory _ | .link _ => none

/-! ## What setting a node changes -/

@[ext] theorem ext {left right : FileTree}
    (h : ∀ location : Location, left.nodes[location]? = right.nodes[location]?) :
    left = right := by
  obtain ⟨leftNodes⟩ := left
  obtain ⟨rightNodes⟩ := right
  have : leftNodes = rightNodes := Std.ExtTreeMap.ext_getElem? fun {location} => h location
  rw [this]

theorem node?_set_of_ne {tree : FileTree} {location place : Location} {node : Node}
    (h : place ≠ location) : (tree.set location node).node? place = tree.node? place := by
  simp [node?, set, Std.ExtTreeMap.getElem?_insert, Ne.symm h]

theorem node?_set_self {tree : FileTree} {location : Location} {node : Node}
    (h : location ≠ []) : (tree.set location node).node? location = some node := by
  simp [node?, set, h]

end FileTree

end BuiltinWrappers
