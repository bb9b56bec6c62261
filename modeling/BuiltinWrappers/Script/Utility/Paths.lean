import BuiltinWrappers.Script.Utility.Files

/-!
# Utilities on paths

Taking paths apart, and telling where they lead.
-/

namespace BuiltinWrappers.Script

open Text (Octets)
open Job

/-! ## Parts of paths -/

def parentPath (path : Octets) : Octets :=
  let kept := withoutTrailingSlashes path
  if kept = ['/'] then ['/']
  else if kept.contains '/' then
    withoutTrailingSlashes (kept.reverse.dropWhile (· ≠ '/')).reverse
  else ['.']

def withoutSuffix (suffix name : Octets) : Octets :=
  if suffix.isSuffixOf name ∧ suffix ≠ name then name.take (name.length - suffix.length)
  else name

def basename : Utility := fun arguments => do
  let options ← options
    { flags := "az", valued := "s", inFront := true,
      long := [("multiple", 'a'), ("suffix", 's'), ("zero", 'z')] } arguments
  needOperand options "missing operand"
  let ending := if options.has 'z' then '\x00' else '\n'
  let show_ (suffix path : Octets) : Job PUnit :=
    print (withoutSuffix suffix (lastName path) ++ [ending])
  if options.hasAny "as" then
    options.operands.forM (show_ ((options.value? 's').getD []))
  else
    match options.operands with
    | [path] => show_ [] path
    | [path, suffix] => show_ suffix path
    | _ :: _ :: extra :: _ =>
        misuse 1 ("extra operand ".toList ++ quote extra)
    | [] => return

def dirname : Utility := fun arguments => do
  let options ← options { flags := "z", long := [("zero", 'z')] } arguments
  needOperand options "missing operand"
  let ending := if options.has 'z' then '\x00' else '\n'
  options.operands.forM fun path => print (parentPath path ++ [ending])

/-! ## Places -/

def locationPath (location : Location) : Octets :=
  '/' :: ['/'].intercalate (location.map Octets.ofString)

def relativePath (start location : Location) : Octets :=
  let shared := ((start.zip location).takeWhile fun (first, second) => first = second).length
  let names := List.replicate (start.length - shared) ['.', '.'] ++
    (location.drop shared).map Octets.ofString
  if names.isEmpty then ['.'] else ['/'].intercalate names

def resolved (options : Options) (path : Octets) : Job (Except SystemFault Location) := do
  let host ← host
  if options.has 'm' then
    return .ok (host.tree.resolveLeniently host.workingDirectory path.toString)
  else
    match ← locate path with
    | .error fault => return .error fault
    | .ok (location, none) =>
        return if options.has 'e' then .error .notFound else .ok location
    | .ok (location, some _) => return .ok location

def showResolved (options : Options) (path : Octets) : Job PUnit := do
  match ← resolved options path with
  | .ok location =>
      match options.value? 'R' with
      | some base =>
          match ← resolved options base with
          | .ok start => printLine (relativePath start location)
          | .error _ => printLine (locationPath location)
      | none =>
          if options.has 'n' then print (locationPath location)
          else printLine (locationPath location)
  | .error fault =>
      if !options.has 'q' then complain (path ++ ": ".toList ++ wording fault)
      fail

def realpath : Utility := fun arguments => do
  let options ← options
    { flags := "emsqzLP"
      valued := "R"
      long := [("canonicalize-existing", 'e'), ("canonicalize-missing", 'm'),
        ("relative-to", 'R'), ("strip", 's'), ("no-symlinks", 's'), ("quiet", 'q')] } arguments
  needOperand options "missing operand"
  options.operands.forM (showResolved options)

def readlink : Utility := fun arguments => do
  let options ← options
    { flags := "femnqsvz", long := [("canonicalize", 'f'), ("canonicalize-existing", 'e'),
        ("canonicalize-missing", 'm'), ("no-newline", 'n'), ("quiet", 'q')] } arguments
  needOperand options "missing operand"
  options.operands.forM fun path => do
    if options.hasAny "fem" then
      showResolved { options with given := ('q', []) :: options.given } path
    else
      match ← entryAt path with
      | some (.link target) =>
          print (Octets.ofString target ++ if options.has 'n' then [] else ['\n'])
      | _ => fail

def showDirectory : Utility := fun _ => do
  printLine (locationPath (← host).workingDirectory)

end BuiltinWrappers.Script
