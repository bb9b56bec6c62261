import BuiltinWrappers.Script.Utility.Lines
import BuiltinWrappers.Script.Utility.Permissions

/-!
# Utilities on pieces of files

Copying blocks of a content, cutting a content into files, widening its tabs, and
putting files where programs are kept.
-/

namespace BuiltinWrappers.Script

open Text (Octets)
open Job

/-! ## Blocks -/

def operandValue? (name : String) (words : List Octets) : Option Octets :=
  let front := name.toList ++ ['=']
  (words.reverse.find? (front.isPrefixOf ·)).map (·.drop front.length)

/-- Copy a part of a content, which is counted in blocks. -/
def dd : Utility := fun words => do
  let number (name : String) (usual : Nat) : Nat :=
    ((operandValue? name words).map countOf).getD usual
  let input := number "ibs" (number "bs" 512)
  let output := number "obs" (number "bs" 512)
  let changes := ((operandValue? "conv" words).getD []).splitOn ','
  let changesBy (name : String) : Bool := changes.contains name.toList
  let source := (operandValue? "if" words).getD ['-']
  match ← read source with
  | .error fault =>
      abort 1 ("failed to open ".toList ++ quote source ++ ": ".toList ++ wording fault)
  | .ok content =>
      let content := content.drop (input * number "skip" 0)
      let content :=
        match operandValue? "count" words with
        | some count => content.take (input * countOf count)
        | none => content
      let content :=
        if changesBy "ucase" then content.map Char.toUpper
        else if changesBy "lcase" then content.map Char.toLower
        else content
      match operandValue? "of" words with
      | none => print content
      | some target =>
          let before := ((← read target).toOption).getD []
          let position := output * number "seek" 0
          let kept := if changesBy "notrunc" then before else before.take position
          match ← write target (overwritten kept position content) with
          | .ok () => pure ()
          | .error fault =>
              abort 1 ("failed to open ".toList ++ quote target ++ ": ".toList ++ wording fault)

/-! ## Cutting into files -/

def pieceName (digits : Bool) (length index : Nat) : Octets :=
  let base := if digits then 10 else 26
  let first := if digits then '0' else 'a'
  (List.range length).reverse.map fun (place : Nat) =>
    Char.ofNat (first.toNat + index / Nat.pow base place % base)

def piecesOf {α : Type} (size : Nat) : (fuel : Nat) → List α → List (List α)
  | 0, _ | _, [] => []
  | fuel + 1, items => items.take size :: piecesOf size fuel (items.drop size)

def split : Utility := fun arguments => do
  let options ← options
    { flags := "d", valued := "lba"
      long := [("lines", 'l'), ("bytes", 'b'), ("suffix-length", 'a'), ("numeric-suffixes", 'd')] }
    (spellCount arguments |>.map fun word => if word = "-n".toList then "-l".toList else word)
  let source := options.operands.headD ['-']
  match ← read source with
  | .error fault =>
      abort 1 ("cannot open ".toList ++ quote source ++ " for reading: ".toList ++ wording fault)
  | .ok content =>
      let front := (options.operands[1]?).getD ['x']
      let length := ((options.value? 'a').map countOf).getD 2
      let pieces :=
        match options.value? 'b' with
        | some size => piecesOf (max 1 (countOf size)) content.length content
        | none =>
            let size := ((options.value? 'l').map countOf).getD 1000
            let lines := wholeLines content
            (piecesOf (max 1 size) lines.length lines).map List.flatten
      pieces.zipIdx.forM fun (piece, index) => do
        let _ ← write (front ++ pieceName (options.has 'd') length index) piece

/-! ## Tabs -/

def expandedLine (width : Nat) (leadingOnly : Bool) : (column : Nat) → (leading : Bool) → Octets →
    Octets
  | _, _, [] => []
  | column, leading, octet :: rest =>
      if octet = '\t' ∧ (leading ∨ !leadingOnly) then
        let gap := width - column % width
        List.replicate gap ' ' ++ expandedLine width leadingOnly (column + gap) leading rest
      else
        octet :: expandedLine width leadingOnly (column + 1) (leading && octet = ' ') rest

def expand : Utility := fun arguments => do
  let options ← options
    { flags := "i", valued := "t", long := [("initial", 'i'), ("tabs", 't')] } arguments
  let width := max 1 (((options.value? 't').map countOf).getD 8)
  forFiles options.operands fun _ content =>
    print ((wholeLines content).flatMap (expandedLine width (options.has 'i') 0 true))

def unexpandedLine (width : Nat) (line : Octets) : Octets :=
  let blanks := line.takeWhile fun octet => octet = ' ' || octet = '\t'
  let column := blanks.foldl (fun column octet =>
    if octet = '\t' then (column / width + 1) * width else column + 1) 0
  List.replicate (column / width) '\t' ++ List.replicate (column % width) ' ' ++
    line.drop blanks.length

def unexpand : Utility := fun arguments => do
  let options ← options
    { flags := "a", valued := "t", long := [("all", 'a'), ("tabs", 't')] } arguments
  let width := max 1 (((options.value? 't').map countOf).getD 8)
  forFiles options.operands fun _ content =>
    print ((wholeLines content).flatMap (unexpandedLine width))

/-! ## Placing files -/

def installOne (mode source target : Octets) : Job PUnit := do
  match ← locate source with
  | .error fault => cannot "cannot stat" source fault
  | .ok (_, none) => cannot "cannot stat" source .notFound
  | .ok (_, some (.directory _)) =>
      complain ("omitting directory ".toList ++ quote source)
      fail
  | .ok (_, some (.link _)) => cannot "cannot stat" source .tooManyLinks
  | .ok (_, some (.file content _)) =>
      if ← areSame source target then complainSame source target
      else
        match ← locateEntry target with
        | .ok (location, _) =>
            let host := (← host).remove location
            let mode := (Permission.changed? 0 false 0 mode).getD 0o755
            setHost (host.store location (.file content mode))
        | .error fault => cannot "cannot create regular file" target fault

def install : Utility := fun arguments => do
  let options ← options
    { flags := "dDvcpCsT", valued := "mtog"
      long := [("directory", 'd'), ("mode", 'm'), ("target-directory", 't'), ("verbose", 'v')] }
    arguments
  let mode := (options.value? 'm').getD "755".toList
  if options.has 'd' then
    options.operands.forM fun path => do
      match ← makeParents path with
      | .ok () => pure ()
      | .error fault => cannot "cannot create directory" path fault
  else
    if options.has 'D' then
      let target := (options.value? 't').getD (options.operands.getLastD [])
      let above := if (options.value? 't').isSome then target
        else target.take (target.length - (lastName target).length)
      if !above.isEmpty then let _ ← makeParents above
    (← destinations options "copy").forM fun (source, target) => installOne mode source target

def link : Utility := fun arguments => do
  match arguments with
  | [source, target] => linkOne {} source target
  | _ => misuse 1 "missing operand".toList

def unlink : Utility := fun arguments => do
  match arguments with
  | [path] =>
      match ← attempt fun host => host.removeFile path.toString with
      | .ok () => return
      | .error fault => cannot "cannot unlink" path fault
  | _ => misuse 1 "missing operand".toList

end BuiltinWrappers.Script
