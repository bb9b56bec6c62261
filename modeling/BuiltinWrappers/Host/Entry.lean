import BuiltinWrappers.Host

/-!
# Entries

The names in directories come and go.  A name that is taken away or given to
something else is no alias of its file any longer.
-/

namespace BuiltinWrappers.Host

def locate (host : Host) (path : String) : Except SystemFault (Location × Option Node) := do
  let location ← host.tree.resolve host.workingDirectory path
  return (location, host.tree.node? location)

def locateEntry (host : Host) (path : String) :
    Except SystemFault (Location × Option Node) := do
  let location ← host.tree.resolveEntry host.workingDirectory path
  return (location, host.tree.node? location)

def isDirectoryPath (host : Host) (path : String) : Bool :=
  match host.locate path with
  | .ok (_, some (.directory _)) => true
  | _ => false

def setMode (host : Host) (path : String) (mode : Nat) : Except SystemFault Host := do
  match ← host.locate path with
  | (_, none) => .error .notFound
  | (location, some node) => .ok (host.store location (node.withMode mode))

/-! ## Names that come and go -/

def forgetBelow (host : Host) (location : Location) : Host :=
  { host with aliases := host.aliases.map fun names => names.filter (!location.isPrefixOf ·) }

def remove (host : Host) (location : Location) : Host :=
  { host.forgetBelow location with tree := host.tree.removeAll location }

def addName (host : Host) (location second : Location) : Host :=
  match host.tree.node? location with
  | some (.directory _) | none => host
  | some node =>
      let host := host.remove second
      let names := second :: host.namesOf location
      { host with
        tree := host.tree.set second node
        aliases := names :: host.aliases.filter (!·.contains location) }

def move (host : Host) (old new : Location) : Host :=
  if old = new ∨ (host.namesOf old).contains new then host
  else
    let host := host.forgetBelow new
    { host with
      tree := host.tree.moveAll old new
      aliases := host.aliases.map fun names => names.map (FileTree.movedPlace old new) }

/-! ## Making links, removing files -/

def makeLink (host : Host) (target path : String) : Except SystemFault Host := do
  match ← host.locateEntry path with
  | (_, some _) => .error .alreadyExists
  | (location, none) => .ok { host with tree := host.tree.set location (.link target) }

/-- Remove a file or a link, but no directory. -/
def removeFile (host : Host) (path : String) : Except SystemFault Host := do
  match ← host.locateEntry path with
  | (_, none) => .error .notFound
  | (_, some (.directory _)) => .error .isDirectory
  | (location, some _) => .ok (host.remove location)

end BuiltinWrappers.Host
