import BuiltinWrappers.Script.Utility.Permissions

/-!
# Listing files

The names in directories and what is known of them.  Names come in increasing
order by code point.
-/

namespace BuiltinWrappers.Script

open Text (Octets)
open Job

/-! ## Lists of names -/

def listOptions : OptionSet where
  flags := "1aAdrRFpSthiUfCxlnogvXmQsLHbkGN"
  long := [("all", 'a'), ("almost-all", 'A'), ("directory", 'd'), ("reverse", 'r'),
    ("recursive", 'R'), ("classify", 'F')]

def listedName (options : Options) (name : Octets) (node : Node) : Octets :=
  match node with
  | .directory _ => if options.hasAny "Fp" then name ++ ['/'] else name
  | .file _ _ => if options.has 'F' ∧ node.isExecutable then name ++ ['*'] else name
  | .link target =>
      if options.hasAny "lnog" then name ++ " -> ".toList ++ Octets.ofString target
      else if options.has 'F' then name ++ ['@']
      else name

def orderNames (options : Options) (entries : List (Octets × Node)) : List (Octets × Node) :=
  if options.hasAny "Uf" then entries
  else
    let byName := entries.mergeSort fun first second => !decide (second.1 < first.1)
    let sorted :=
      if options.has 'S' then
        byName.mergeSort fun first second => second.2.size ≤ first.2.size
      else byName
    if options.has 'r' then sorted.reverse else sorted

def longList (options : Options) (total : Bool) (entries : List (Octets × Node)) : Octets :=
  let width := entries.foldl (fun width entry =>
    max width (Text.decimalText entry.2.size).length) 0
  let blocks (node : Node) : Nat := if node.isLink then 0 else (node.size + 4095) / 4096 * 4
  let sum := entries.foldl (fun sum entry => sum + blocks entry.2) 0
  let lines := (orderNames options entries).map fun (name, node) =>
    let links := if node.isDirectory then ['2'] else ['1']
    rights node ++ ' ' :: links ++ " root root ".toList ++
      rightAligned width (Text.decimalText node.size) ++ " Jan  1 00:00 ".toList ++
      listedName options name node
  (if total then "total ".toList ++ Text.decimalText sum ++ ['\n'] else []) ++ unlines lines

def listText (options : Options) (total : Bool) (entries : List (Octets × Node)) : Octets :=
  let names := (orderNames options entries).map fun (name, node) => listedName options name node
  if options.hasAny "lnog" then longList options total entries
  else if options.has 'm' ∧ names ≠ [] then [',', ' '].intercalate names ++ ['\n']
  else unlines names

def directoryEntries (options : Options) (tree : FileTree) (location : Location) :
    List (Octets × Node) :=
  let children := (tree.children location).filterMap fun name =>
    (tree.node? (location ++ [name])).map fun node => (Octets.ofString name, node)
  let itself := (tree.node? location).getD FileTree.topDirectory
  let above := (tree.node? location.dropLast).getD FileTree.topDirectory
  if options.hasAny "af" then (['.'], itself) :: (['.', '.'], above) :: children
  else if options.has 'A' then children
  else children.filter fun entry => entry.1.head? ≠ some '.'

def directoriesToList (options : Options) (tree : FileTree) :
    (fuel : Nat) → Octets × Location → List (Octets × Location)
  | 0, directory => [directory]
  | fuel + 1, (path, location) =>
      if options.has 'R' then
        let inner := (orderNames options (directoryEntries options tree location)).filter
          fun entry => entry.2.isDirectory ∧ entry.1 ≠ ['.'] ∧ entry.1 ≠ ['.', '.']
        (path, location) :: inner.flatMap fun entry =>
          directoriesToList options tree fuel
            (within path entry.1, location ++ [entry.1.toString])
      else [(path, location)]

def ls : Utility := fun arguments => do
  let options ← optionsOr 2 listOptions arguments
  let paths := if options.operands.isEmpty then [['.']] else options.operands
  let found ← paths.filterMapM fun path => do
    let found ← locate path
    let entry ← locateEntry path
    match if options.hasAny "ldF" && !options.hasAny "LH" then entry else found with
    | .ok (location, some node) => return some (path, location, node)
    | .ok (_, none) =>
        cannot "cannot access" path .notFound
        setStatus 2
        return none
    | .error fault =>
        cannot "cannot access" path fault
        setStatus 2
        return none
  let isListed (node : Node) : Bool := node.isDirectory && !options.has 'd'
  let plain := found.filterMap fun (path, _, node) =>
    if isListed node then none else some (path, node)
  let directories := orderNames options (found.filterMap fun (path, _, node) =>
    if isListed node then some (path, node) else none)
  let tree := (← host).tree
  let chosen := directories.flatMap fun (path, _) =>
    match found.find? (·.1 = path) with
    | some (_, location, _) => directoriesToList options tree 64 (path, location)
    | none => []
  let headed := options.has 'R' || 1 < paths.length
  let sections := chosen.map fun (path, location) =>
    (if headed then path ++ [':', '\n'] else []) ++
      listText options true (directoryEntries options tree location)
  let sections := if plain.isEmpty then sections else listText options false plain :: sections
  print (['\n'].intercalate sections)

/-! ## Facts about one file -/

structure FileFacts where
  path : Octets
  names : Nat
  node : Node

def kindName : Node → String
  | .directory _ => "directory"
  | .file content _ => if content.size = 0 then "regular empty file" else "regular file"
  | .link _ => "symbolic link"

def fullMode (node : Node) : Nat :=
  match node with
  | .file _ mode => 0o100000 ||| mode
  | .directory mode => 0o040000 ||| mode
  | .link _ => 0o120777

def statField (facts : FileFacts) : Char → Octets
  | 'n' => facts.path
  | 'N' =>
      match facts.node with
      | .link target =>
          quote facts.path ++ " -> ".toList ++ quote (Octets.ofString target)
      | _ => quote facts.path
  | 's' => Text.decimalText facts.node.size
  | 'F' => (kindName facts.node).toList
  | 'a' => Nat.toDigits 8 facts.node.mode
  | 'f' => Nat.toDigits 16 (fullMode facts.node)
  | 'A' => rights facts.node
  | 'h' => Text.decimalText facts.names
  | 'U' | 'G' => "root".toList
  | 'u' | 'g' => ['0']
  | 'B' => "512".toList
  | 'b' => Text.decimalText ((facts.node.size + 4095) / 4096 * 8)
  | 'o' => "4096".toList
  | '%' => ['%']
  | _ => ['?']

def statText (facts : FileFacts) : Octets → Octets
  | '%' :: letter :: rest => statField facts letter ++ statText facts rest
  | character :: rest => character :: statText facts rest
  | [] => []

def escapedText : Octets → Octets
  | '\\' :: 'n' :: rest => '\n' :: escapedText rest
  | '\\' :: 't' :: rest => '\t' :: escapedText rest
  | '\\' :: '\\' :: rest => '\\' :: escapedText rest
  | '\\' :: '0' :: rest => '\x00' :: escapedText rest
  | character :: rest => character :: escapedText rest
  | [] => []

def stat : Utility := fun arguments => do
  let options ← options
    { flags := "Lft", valued := "cp"
      long := [("format", 'c'), ("printf", 'p'), ("dereference", 'L')] } arguments
  needOperand options "missing operand"
  options.operands.forM fun path => do
    let found ← locate path
    let entry ← locateEntry path
    match if options.has 'L' then found else entry with
    | .ok (location, some node) =>
        let host ← host
        let names := if node.isDirectory then 2 else (host.namesOf location).length
        let facts : FileFacts := { path, names, node }
        match options.value? 'p' with
        | some format => print (statText facts (escapedText format))
        | none => printLine (statText facts ((options.value? 'c').getD ['%', 'n']))
    | .ok (_, none) => cannot "cannot statx" path .notFound
    | .error fault => cannot "cannot statx" path fault

end BuiltinWrappers.Script
