import BuiltinWrappers.Host.Entry

/-!
# Directories

Making and removing directories, one at a time or with all that is above or below
them.  What was done before a fault stays done.
-/

namespace BuiltinWrappers.Host

/-! ## Parts of paths -/

def lastName (path : String) : String :=
  ((FileTree.pathNames path).reverse.find? (· ≠ "")).getD ""

def withoutTrailingSlashes (path : String) : String :=
  .ofList (path.toList.reverse.dropWhile (· = '/')).reverse

def isPlace (name : String) : Bool := name ≠ "" && name ≠ "."

/--
The paths above a path, the nearest one first, as far as it names them.  A dot at
the end or between two slashes names nothing.
-/
def pathsAbove (path : String) : List String :=
  let names := ((FileTree.pathNames path).reverse.dropWhile (!isPlace ·)).reverse
  let cuts := (List.range names.length).filter fun cut =>
    (names[cut]?).any isPlace && (names.take cut).any isPlace
  cuts.reverse.map fun cut =>
    "/".intercalate ((names.take cut).reverse.dropWhile (!isPlace ·)).reverse

/-! ## Making directories -/

def makeDirectory (host : Host) (path : String) (mode : Nat) : Except SystemFault Host := do
  let name := lastName path
  if !isPlace name ∨ name = ".." then
    match ← host.locate path with
    | (_, some _) => .error .alreadyExists
    | (_, none) => .error .notFound
  else
    match ← host.locateEntry (withoutTrailingSlashes path) with
    | (_, some _) => .error .alreadyExists
    | (location, none) =>
        .ok { host with tree := host.tree.set location (.directory (host.maskedMode mode)) }

/-- Make a directory unless it is there already. -/
def haveDirectory (host : Host) (path : String) : Except SystemFault Host :=
  match host.makeDirectory path 0o777 with
  | .ok host => .ok host
  | .error fault => if host.isDirectoryPath path then .ok host else .error fault

/-- Make directories one after the other unless they are there, up to the first fault. -/
def haveDirectories (host : Host) : List String → Except SystemFault Unit × Host
  | [] => (.ok (), host)
  | path :: paths =>
      match host.haveDirectory path with
      | .ok host => host.haveDirectories paths
      | .error fault => (.error fault, host)

def orUnchanged (host : Host) : Except SystemFault Host → Except SystemFault Unit × Host
  | .ok after => (.ok (), after)
  | .error fault => (.error fault, host)

def makeDirectoriesAlong (host : Host) (path : String) :
    (above : List String) → Except SystemFault Unit × Host
  | [] => host.orUnchanged (host.haveDirectory path)
  | next :: above =>
      match host.haveDirectory path with
      | .error .notFound =>
          match host.makeDirectoriesAlong next above with
          | (.ok _, host) => host.orUnchanged (host.haveDirectory path)
          | failed => failed
      | outcome => host.orUnchanged outcome

def makeDirectories (host : Host) (path : String) : Except SystemFault Unit × Host :=
  if path = "" then (.ok (), host) else host.makeDirectoriesAlong path (pathsAbove path)

def place (host : Host) (path : String) (content : ByteArray) : Except SystemFault Unit × Host :=
  let host :=
    match pathsAbove path with
    | above :: _ => (host.makeDirectories above).2
    | [] => host
  host.orUnchanged (host.writeBytes path content)

/-! ## Looking into directories -/

/--
The files in a directory and those below it, each by its names from there, as far
as the fuel allows.  Links lead to what they stand for.
-/
def filesWithin (host : Host) : (fuel : Nat) → Location → List (List String × ByteArray)
  | 0, _ => []
  | fuel + 1, location =>
      (host.tree.children location).flatMap fun name =>
        match host.tree.walk true FileTree.mostLinks location [name] with
        | .error _ => []
        | .ok place =>
            match host.tree.node? place with
            | some (.file content _) => [([name], content)]
            | some (.directory _) =>
                (host.filesWithin fuel place).map fun (names, content) =>
                  (name :: names, content)
            | some (.link _) | none => []

def deepestDirectory : Nat := 2048

def filesBelow (host : Host) (location : Location) : List (List String × ByteArray) :=
  host.filesWithin deepestDirectory location

/-! ## Removing directories -/

def removeDirectory (host : Host) (path : String) : Except SystemFault Host := do
  let name := lastName path
  if name = "." ∨ name = ".." then
    let _ ← host.locate path
    .error (if name = "." then .badArgument else .notEmpty)
  else
    match ← host.locateEntry (withoutTrailingSlashes path) with
    | (_, none) => .error .notFound
    | (location, some (.directory _)) =>
        if (host.tree.children location).isEmpty then .ok (host.remove location)
        else .error .notEmpty
    | (_, some _) => .error .notDirectory

def emptyDirectory (host : Host) (location : Location) : Host :=
  (host.tree.children location).foldl (fun host name => host.remove (location ++ [name])) host

/--
Remove a file, a link or a whole directory.  A directory is emptied first, and
may be gone by then.
-/
def removeTree (host : Host) (path : String) : Except SystemFault Unit × Host :=
  match host.locateEntry path with
  | .ok (location, some (.directory _)) =>
      let host := host.emptyDirectory location
      match host.removeDirectory path with
      | .ok host => (.ok (), host)
      | .error .notFound => (.ok (), host)
      | .error fault => (.error fault, host)
  | _ => host.orUnchanged (host.removeFile path)

/-! ## Examples -/

example : pathsAbove "./m//n/." = ["./m"] := by decide +kernel

example : pathsAbove "/a/b/../c/" = ["/a/b/..", "/a/b", "/a"] := by decide +kernel

end BuiltinWrappers.Host
