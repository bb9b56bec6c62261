import BuiltinWrappers.Script.Utility.Lines

/-!
# Differences

Two texts differ by the lines that do not belong to a longest common sequence of
both.  The differences are shown in hunks, by themselves or with lines around
them.
-/

namespace BuiltinWrappers.Script

open Text (Octets)
open Job

namespace Difference

inductive Change where
  | kept (line : Octets)
  | removed (line : Octets)
  | added (line : Octets)
  deriving DecidableEq, Repr

/-! ## Longest common sequences -/

/--
The lengths of the longest common sequences of one line with the rest of a text
and each rest of the other, given those without that line.
-/
def row (same : Octets → Octets → Bool) (line : Octets) : List Octets → List Nat → List Nat
  | other :: others, below :: belows =>
      let rest := row same line others belows
      let diagonal := belows.headD 0
      let length := if same line other then diagonal + 1 else max below (rest.headD 0)
      length :: rest
  | _, _ => [0]

def rows (same : Octets → Octets → Bool) (second : List Octets) : List Octets → List (List Nat)
  | [] => [second.map (fun _ => 0) ++ [0]]
  | line :: first =>
      let below := rows same second first
      row same line second (below.headD []) :: below

def walk (same : Octets → Octets → Bool) : (fuel : Nat) → List (List Nat) → List Octets →
    List Octets → List Change
  | 0, _, _, _ => []
  | _ + 1, _, [], second => second.map .added
  | _ + 1, _, first, [] => first.map .removed
  | fuel + 1, table, one :: first, two :: second =>
      let narrower := table.map List.tail
      if same one two then .kept one :: walk same fuel narrower.tail first second
      else
        let without := ((table.tail.headD []).headD 0)
        let within := ((narrower.headD []).headD 0)
        if within ≤ without then .removed one :: walk same fuel table.tail first (two :: second)
        else .added two :: walk same fuel narrower (one :: first) second

def commonFront (same : Octets → Octets → Bool) : List Octets → List Octets → Nat
  | one :: first, two :: second => if same one two then commonFront same first second + 1 else 0
  | _, _ => 0

def changes (same : Octets → Octets → Bool) (first second : List Octets) : List Change :=
  let front := commonFront same first second
  let restOne := first.drop front
  let restTwo := second.drop front
  let rear := commonFront same restOne.reverse restTwo.reverse
  let middleOne := restOne.take (restOne.length - rear)
  let middleTwo := restTwo.take (restTwo.length - rear)
  let table := rows same middleTwo middleOne
  (first.take front).map .kept ++
    walk same (middleOne.length + middleTwo.length + 1) table middleOne middleTwo ++
    (restOne.drop (restOne.length - rear)).map .kept

/-! ## Hunks -/

structure Hunk where
  before : Nat
  after : Nat
  removed : List Octets
  added : List Octets

def hunks : (current : Hunk) → List Change → List Hunk
  | current, [] => if current.removed.isEmpty ∧ current.added.isEmpty then [] else [current]
  | current, .removed line :: rest =>
      hunks { current with removed := current.removed ++ [line] } rest
  | current, .added line :: rest => hunks { current with added := current.added ++ [line] } rest
  | current, .kept _ :: rest =>
      let next : Hunk :=
        { before := current.before + current.removed.length + 1
          after := current.after + current.added.length + 1, removed := [], added := [] }
      if current.removed.isEmpty ∧ current.added.isEmpty then hunks next rest
      else current :: hunks next rest

def ended (mark : Octets) (line : Octets) : Octets :=
  if line.getLast? = some '\n' then mark ++ line
  else mark ++ line ++ "\n\\ No newline at end of file\n".toList

def range (start count : Nat) : Octets :=
  if count ≤ 1 then Text.decimalText start
  else Text.decimalText start ++ ',' :: Text.decimalText (start + count - 1)

def plainHunk (hunk : Hunk) : Octets :=
  let old := hunk.removed.length
  let new := hunk.added.length
  let first := range (if old = 0 then hunk.before else hunk.before + 1) old
  let second := range (if new = 0 then hunk.after else hunk.after + 1) new
  let letter := if old = 0 then 'a' else if new = 0 then 'd' else 'c'
  let between := if old ≠ 0 ∧ new ≠ 0 then "---\n".toList else []
  first ++ letter :: second ++ '\n' :: hunk.removed.flatMap (ended ['<', ' ']) ++ between ++
    hunk.added.flatMap (ended ['>', ' '])

/-! ## Hunks with lines around them -/

def isKept : Change → Bool
  | .kept _ => true
  | _ => false

def contexts (size : Nat) : (fuel : Nat) → (before after : Nat) → List Change →
    List (Nat × Nat × List Change)
  | 0, _, _, _ => []
  | fuel + 1, before, after, list =>
      let lead := list.takeWhile isKept
      let rest := list.drop lead.length
      if rest.isEmpty then []
      else
        let front := lead.drop (lead.length - size)
        let skipped := lead.length - front.length
        let body := group rest.length rest
        let used := front ++ body
        let old := (used.filter fun change =>
          match change with
          | .added _ => false
          | _ => true).length
        let new := (used.filter fun change =>
          match change with
          | .removed _ => false
          | _ => true).length
        (before + skipped, after + skipped, used) ::
          contexts size fuel (before + skipped + old) (after + skipped + new)
            (rest.drop body.length)
where
  group : (fuel : Nat) → List Change → List Change
    | 0, list => list
    | fuel + 1, list =>
        let changed := list.takeWhile (!isKept ·)
        let rest := list.drop changed.length
        let kept := rest.takeWhile isKept
        if kept.length ≤ 2 * size ∧ kept.length < rest.length then
          changed ++ kept ++ group fuel (rest.drop kept.length)
        else changed ++ kept.take size

def countedRange (start count : Nat) : Octets :=
  let first := if count = 0 then start else start + 1
  if count = 1 then Text.decimalText first
  else Text.decimalText first ++ ',' :: Text.decimalText count

def contextHunk (before after : Nat) (list : List Change) : Octets :=
  let old := (list.filter fun change =>
    match change with
    | .added _ => false
    | _ => true).length
  let new := (list.filter fun change =>
    match change with
    | .removed _ => false
    | _ => true).length
  "@@ -".toList ++ countedRange before old ++ " +".toList ++ countedRange after new ++
    " @@\n".toList ++ list.flatMap fun change =>
      match change with
      | .kept line => ended [' '] line
      | .removed line => ended ['-'] line
      | .added line => ended ['+'] line

/-! ## Comparing lines -/

def withoutBlanks (line : Octets) : Octets :=
  line.filter fun octet => octet ≠ ' ' ∧ octet ≠ '\t' ∧ octet ≠ '\n' ∧ octet ≠ '\r'

def withSingleBlanks (line : Octets) : Octets :=
  let isBlank (octet : Char) : Bool := octet = ' ' || octet = '\t' || octet = '\n'
  let line := (line.reverse.dropWhile isBlank).reverse
  squeeze (· = ' ') (line.map fun octet => if isBlank octet then ' ' else octet)

def sameLine (options : Options) (first second : Octets) : Bool :=
  let plain (line : Octets) : Octets :=
    let line := if options.has 'i' then line.map Char.toLower else line
    if options.has 'w' then withoutBlanks line
    else if options.has 'b' then withSingleBlanks line
    else line
  plain first = plain second

end Difference

def changeTime : Octets := "1970-01-01 00:00:00.000000000 +0000".toList

def diff : Utility := fun arguments => do
  let options ← optionsOr 2
    { flags := "qsuibwaBNr", valued := "U"
      long := [("brief", 'q'), ("unified", 'u'), ("report-identical-files", 's'),
        ("ignore-case", 'i'), ("ignore-all-space", 'w'), ("ignore-space-change", 'b'),
        ("text", 'a'), ("new-file", 'N'), ("recursive", 'r')] } arguments
  match options.operands with
  | [one, two] =>
      let name (path other : Octets) : Job Octets := do
        if ← isDirectoryPath path then return within path (lastName other) else return path
      let pathOne ← name one two
      let pathTwo ← name two one
      match ← read pathOne, ← read pathTwo with
      | .error fault, _ => abort 2 (pathOne ++ ": ".toList ++ wording fault)
      | _, .error fault => abort 2 (pathTwo ++ ": ".toList ++ wording fault)
      | .ok first, .ok second =>
          let same := Difference.sameLine options
          let found := Difference.changes same (wholeLines first) (wholeLines second)
          if found.all Difference.isKept then
            if options.has 's' then
              printLine ("Files ".toList ++ pathOne ++ " and ".toList ++ pathTwo ++
                " are identical".toList)
          else
            setStatus 1
            if options.has 'q' then
              printLine ("Files ".toList ++ pathOne ++ " and ".toList ++ pathTwo ++
                " differ".toList)
            else if options.hasAny "uU" then
              let size := ((options.value? 'U').map (Text.ofDigits 10)).getD 3
              printLine ("--- ".toList ++ pathOne ++ '\t' :: changeTime)
              printLine ("+++ ".toList ++ pathTwo ++ '\t' :: changeTime)
              (Difference.contexts size found.length 0 0 found).forM fun (before, after, list) =>
                print (Difference.contextHunk before after list)
            else
              let start : Difference.Hunk := { before := 0, after := 0, removed := [], added := [] }
              print ((Difference.hunks start found).flatMap Difference.plainHunk)
  | [] | [_] => misuse 2 "missing operand".toList
  | _ :: _ :: extra :: _ => misuse 2 ("extra operand ".toList ++ quote extra)

/-! ## Examples -/

example : Difference.changes (· = ·) [['a'], ['b'], ['c']] [['b'], ['d'], ['c']] =
    [.removed ['a'], .kept ['b'], .added ['d'], .kept ['c']] := by decide +kernel

end BuiltinWrappers.Script
