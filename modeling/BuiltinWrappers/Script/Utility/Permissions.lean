import BuiltinWrappers.Script.Utility.Files

/-!
# Permissions

A mode tells in bits who may read, write and execute: the owner, the group and the
others.  A new mode is given in octal digits, or in clauses that say for whom what
is added, taken away or set.
-/

namespace BuiltinWrappers.Script

open Text (Octets)
open Job

namespace Permission

def bitsOfWho? : Char → Option Nat
  | 'u' => some 0o4700
  | 'g' => some 0o2070
  | 'o' => some 0o1007
  | 'a' => some 0o7777
  | _ => none

def bitsOfLetter (mode : Nat) (isDirectory : Bool) : Char → Nat
  | 'r' => 0o444
  | 'w' => 0o222
  | 'x' => 0o111
  | 'X' => if isDirectory ∨ mode &&& 0o111 ≠ 0 then 0o111 else 0
  | 's' => 0o6000
  | 't' => 0o1000
  | 'u' => (mode >>> 6 &&& 7) * 0o111
  | 'g' => (mode >>> 3 &&& 7) * 0o111
  | 'o' => (mode &&& 7) * 0o111
  | _ => 0

def without (bits taken : Nat) : Nat := bits ^^^ (bits &&& taken)

def applySigns (mask who : Nat) (isDirectory : Bool) : (fuel : Nat) → Nat → Octets → Option Nat
  | 0, _, _ => none
  | _ + 1, mode, [] => some mode
  | fuel + 1, mode, sign :: rest =>
      let letters := rest.takeWhile ("rwxXstugo".toList.contains ·)
      let wanted := letters.foldl (fun bits letter =>
        bits ||| bitsOfLetter mode isDirectory letter) 0
      let bits := if who = 0 then without wanted mask else wanted &&& who
      let after? : Option Nat :=
        match sign with
        | '+' => some (mode ||| bits)
        | '-' => some (without mode bits)
        | '=' => some (without mode (if who = 0 then 0o777 else who) ||| bits)
        | _ => none
      after?.bind fun mode => applySigns mask who isDirectory fuel mode (rest.drop letters.length)

def applyClause (mask : Nat) (isDirectory : Bool) (mode : Nat) (clause : Octets) : Option Nat :=
  let letters := clause.takeWhile fun letter => (bitsOfWho? letter).isSome
  let who := letters.foldl (fun bits letter => bits ||| (bitsOfWho? letter).getD 0) 0
  let signs := clause.drop letters.length
  if signs.isEmpty then none else applySigns mask who isDirectory (signs.length + 1) mode signs

def changed? (mask : Nat) (isDirectory : Bool) (mode : Nat) (word : Octets) : Option Nat :=
  if word ≠ [] ∧ word.all (Text.isDigitOf 8) then
    let bits := Text.ofDigits 8 word
    if bits ≤ 0o7777 then some bits else none
  else (word.splitOn ',').foldlM (applyClause mask isDirectory) mode

/-! ## Examples -/

example : changed? 0o022 false 0o644 "u+x,go-r".toList = some 0o700 := by decide +kernel

example : changed? 0o022 false 0o600 "a=rX".toList = some 0o444 := by decide +kernel

example : changed? 0o022 false 0o644 "+x".toList = some 0o755 := by decide +kernel

end Permission

/-! ## Utilities -/

def permissionLetters (mode shift special : Nat) (letter : Char) : Octets :=
  let bits := mode >>> shift &&& 7
  let last :=
    match bits &&& 1 != 0, mode &&& special != 0 with
    | true, true => letter
    | false, true => letter.toUpper
    | true, false => 'x'
    | false, false => '-'
  [if bits &&& 4 ≠ 0 then 'r' else '-', if bits &&& 2 ≠ 0 then 'w' else '-', last]

def modeLetters (mode : Nat) : Octets :=
  permissionLetters mode 6 0o4000 's' ++ permissionLetters mode 3 0o2000 's' ++
    permissionLetters mode 0 0o1000 't'

def rights (node : Node) : Octets :=
  let kind :=
    match node with
    | .file _ _ => '-'
    | .directory _ => 'd'
    | .link _ => 'l'
  kind :: modeLetters node.mode

def mkdir : Utility := fun arguments => do
  let options ← options
    { flags := "pv", valued := "m"
      long := [("parents", 'p'), ("verbose", 'v'), ("mode", 'm')] } arguments
  needOperand options "missing operand"
  let mask := (← host).creationMask
  let mode? ← (options.value? 'm').mapM fun word =>
    match Permission.changed? mask true 0o777 word with
    | some mode => return mode
    | none => abort 1 ("invalid mode ".toList ++ quote word)
  options.operands.forM fun path => do
    let isNew := (← entryAt path).isNone
    let outcome ← if options.has 'p' then makeParents path else makeDirectory 0o777 path
    match outcome with
    | .error fault => cannot "cannot create directory" path fault
    | .ok () =>
        if isNew then
          if let some mode := mode? then
            let _ ← attempt fun host => host.setMode path.toString mode
          if options.has 'v' then
            printLine ((← get).name ++ ": created directory ".toList ++ quote path)

def changeMode (location : Location) (word : Octets) : Job PUnit := do
  let host ← host
  match host.tree.node? location with
  | some node =>
      if let some mode := Permission.changed? host.creationMask node.isDirectory node.mode word then
        setHost (host.store location (node.withMode mode))
  | none => return

def isMode (word : Octets) : Bool := (Permission.changed? 0 false 0 word).isSome

def chmodOptions : OptionSet where
  flags := "Rvcf"
  valued := "M"
  long := [("recursive", 'R'), ("verbose", 'v'), ("changes", 'c'), ("silent", 'f'),
    ("quiet", 'f'), ("reference", 'M')]

def chmod : Utility := fun arguments => do
  let front := arguments.takeWhile (!isMode ·)
  let (front, word?, rear) :=
    match arguments.drop front.length with
    | word :: rear => (front, some word, rear)
    | [] => (arguments, none, [])
  let options ← options chmodOptions (front ++ rear)
  let word? ←
    match options.value? 'M', word? with
    | some path, _ => do
        let node ← nodeAt path
        pure (node.map fun node => Nat.toDigits 8 node.mode)
    | none, some word => pure (some word)
    | none, none =>
        match options.operands with
        | first :: _ :: _ => misuse 1 ("invalid mode: ".toList ++ quote first)
        | [only] => misuse 1 ("missing operand after ".toList ++ quote only)
        | [] => misuse 1 "missing operand".toList
  let word := word?.getD ['0']
  options.operands.forM fun path => do
    match ← locate path with
    | .error fault => cannot "cannot access" path fault
    | .ok (_, none) => cannot "cannot access" path .notFound
    | .ok (location, some _) =>
        let tree := (← host).tree
        let places := if options.has 'R' then (tree.below location).map Prod.fst else [location]
        (places.filter (· ≠ [])).forM fun place => changeMode place word

end BuiltinWrappers.Script
