import BuiltinWrappers.Text.Alphanumeric
import BuiltinWrappers.Text.Blank
import BuiltinWrappers.Text.Digits
import BuiltinWrappers.Text.LetterCase

/-!
# Patterns

Patterns that are tried one choice after the other, and how they are written.  What
a sign means can depend on flags, so each part of a pattern has its own.
-/

namespace BuiltinWrappers.Script.Indented

namespace Pattern

/-! ## Parts of patterns -/

structure Flags where
  ignoresCase : Bool := false
  byLine : Bool := false
  dotIsAll : Bool := false
  isAscii : Bool := false
  isVerbose : Bool := false
  deriving DecidableEq, Repr

inductive CharacterKind where
  | digit
  | word
  | space
  deriving DecidableEq, Repr

inductive Item where
  | range (first last : Char)
  | named (kind : CharacterKind) (negated : Bool)
  deriving DecidableEq, Repr

inductive Single where
  | one (character : Char)
  | any
  | set (negated : Bool) (items : List Item)
  deriving DecidableEq, Repr

inductive Anchor where
  | lineStart
  | lineEnd
  | textStart
  | textEnd
  | edge (wanted : Bool)
  deriving DecidableEq, Repr

inductive Node where
  | empty
  | never
  | single (single : Single) (flags : Flags)
  | anchor (anchor : Anchor) (flags : Flags)
  | group (number : Nat) (inner : Node)
  | again (number : Nat) (flags : Flags)
  | both (first second : Node)
  | either (first second : Node)
  | repeated (least : Nat) (most : Option Nat) (greedy : Bool) (inner : Node)
  | ahead (wanted : Bool) (inner : Node)
  | behind (wanted : Bool) (width : Nat) (inner : Node)
  | whole (inner : Node)
  | conditional (number : Nat) (first second : Node)
  deriving Repr

def Node.widths : Node → Nat × Option Nat
  | .empty | .never | .anchor _ _ | .ahead _ _ | .behind _ _ _ => (0, some 0)
  | .single _ _ => (1, some 1)
  | .group _ inner | .whole inner => inner.widths
  | .again _ _ => (0, none)
  | .both first second =>
      let (least, most) := first.widths
      let (otherLeast, otherMost) := second.widths
      (least + otherLeast, do return (← most) + (← otherMost))
  | .either first second | .conditional _ first second =>
      let (least, most) := first.widths
      let (otherLeast, otherMost) := second.widths
      (min least otherLeast, do return max (← most) (← otherMost))
  | .repeated least most _ inner =>
      let (innerLeast, innerMost) := inner.widths
      (least * innerLeast, do return (← most) * (← innerMost))

structure Whole where
  node : Node
  count : Nat := 0
  names : List (String × Nat) := []
  flags : Flags := {}

/-! ## Reading -/

structure Refusal where
  reason : String
  place : Option Nat := none

structure Source where
  rest : List Char
  size : Nat
  flags : Flags := {}
  count : Nat := 0
  names : List (String × Nat) := []
  openGroups : List Nat := []

abbrev Reader := StateT Source (Except Refusal)

namespace Reader

def place : Reader Nat := do
  let source ← get
  return source.size - source.rest.length

def refuse {α : Type} (reason : String) : Reader α := do
  throw { reason, place := some (← place) }

def refuseAt {α : Type} (place : Nat) (reason : String) : Reader α :=
  throw { reason, place := some place }

def next? : Reader (Option Char) := return (← get).rest.head?

def skip (count : Nat) : Reader PUnit :=
  modify fun source => { source with rest := source.rest.drop count }

def taken (text : String) : Reader Bool := do
  if text.toList.isPrefixOf (← get).rest then
    skip text.length
    return true
  return false

def takeWhile (keeps : Char → Bool) : Reader (List Char) := do
  let found := (← get).rest.takeWhile keeps
  skip found.length
  return found

end Reader

open Reader

def isHexadecimal (character : Char) : Bool :=
  character.isDigit || ('a' ≤ character.toLower && character.toLower ≤ 'f')

def coded (start count : Nat) : Reader Char := do
  let digits := (← get).rest.take count
  if digits.length < count ∨ !digits.all isHexadecimal then
    refuseAt start "incomplete escape"
  skip count
  return Char.ofNat (Text.ofDigits 16 digits)

def plainEscape? (letter : Char) : Option Char :=
  match letter with
  | 'n' => some '\n'
  | 't' => some '\t'
  | 'r' => some '\r'
  | 'f' => some '\x0c'
  | 'v' => some '\x0b'
  | 'a' => some '\x07'
  | _ => none

def kindOf? (letter : Char) : Option Item :=
  match letter with
  | 'd' => some (.named .digit false)
  | 'D' => some (.named .digit true)
  | 'w' => some (.named .word false)
  | 'W' => some (.named .word true)
  | 's' => some (.named .space false)
  | 'S' => some (.named .space true)
  | _ => none

def isOctal (character : Char) : Bool := '0' ≤ character && character ≤ '7'

def escapedCharacter (start : Nat) (letter : Char) : Reader Char := do
  match plainEscape? letter with
  | some character => return character
  | none =>
      match letter with
      | 'x' => coded start 2
      | 'u' => coded start 4
      | 'U' => coded start 8
      | letter =>
          if letter.isAlpha then
            refuseAt start (String.ofList ("bad escape \\".toList ++ [letter]))
          return letter

def escapedItem (start : Nat) : Reader Item := do
  match ← next? with
  | none => refuseAt start "bad escape (end of pattern)"
  | some letter =>
      skip 1
      match kindOf? letter with
      | some item => return item
      | none =>
          let one (character : Char) : Item := .range character character
          if letter = 'b' then return one '\x08'
          if isOctal letter then
            let more := (← get).rest.take 2 |>.takeWhile isOctal
            skip more.length
            return one (Char.ofNat (Text.ofDigits 8 (letter :: more)))
          return one (← escapedCharacter start letter)

/-- The items of a set up to its closing bracket. -/
def items (start : Nat) : (fuel : Nat) → (isFirst : Bool) → Reader (List Item)
  | 0, _ => refuseAt start "unterminated character set"
  | fuel + 1, isFirst => do
      let before ← place
      match ← next? with
      | none => refuseAt start "unterminated character set"
      | some character =>
          skip 1
          if character = ']' ∧ !isFirst then return []
          let first ← if character = '\\' then escapedItem before
            else pure (.range character character)
          match (← get).rest with
          | '-' :: ']' :: _ | [] | ['-'] => return first :: (← items start fuel false)
          | '-' :: '\\' :: _ | '-' :: _ :: _ =>
              skip 1
              let middle ← place
              let last ←
                if ← taken "\\" then escapedItem middle
                else
                  match ← next? with
                  | some last =>
                      skip 1
                      pure (.range last last)
                  | none => refuseAt start "unterminated character set"
              match first, last with
              | .range low _, .range high _ =>
                  if high < low then
                    refuseAt before (String.ofList ("bad character range ".toList ++ [low, '-', high]))
                  return .range low high :: (← items start fuel false)
              | _, _ => refuseAt before "bad character range"
          | _ => return first :: (← items start fuel false)

/-! ## Repetitions -/

def bounds? (text : List Char) : Option (Nat × Option Nat × List Char) :=
  let low := text.takeWhile Char.isDigit
  let least := if low.isEmpty then 0 else Text.ofDigits 10 low
  match text.dropWhile Char.isDigit with
  | '\x7d' :: rest => if low.isEmpty then none else some (least, some least, rest)
  | ',' :: rest =>
      let high := rest.takeWhile Char.isDigit
      match rest.dropWhile Char.isDigit with
      | '\x7d' :: rest =>
          some (least, if high.isEmpty then none else some (Text.ofDigits 10 high), rest)
      | _ => none
  | _ => none

def repetition? : Reader (Option (Nat × Option Nat)) := do
  match (← get).rest with
  | '*' :: _ =>
      skip 1
      return some (0, none)
  | '+' :: _ =>
      skip 1
      return some (1, none)
  | '?' :: _ =>
      skip 1
      return some (0, some 1)
  | '\x7b' :: text =>
      match bounds? text with
      | none => return none
      | some (least, most, rest) =>
          if most.any (· < least) then refuse "min repeat greater than max repeat"
          modify fun source => { source with rest }
          return some (least, most)
  | _ => return none

def isRepeated : Node → Bool
  | .repeated _ _ _ _ => true
  | .whole inner => isRepeated inner
  | _ => false

def withRepetition (start : Nat) (node : Node) : Reader Node := do
  let before ← place
  match ← repetition? with
  | none => return node
  | some (least, most) =>
      match node with
      | .empty | .anchor _ _ => refuseAt before "nothing to repeat"
      | node =>
          if isRepeated node then refuseAt before "multiple repeat"
          let _ := start
          if ← taken "?" then return .repeated least most false node
          if ← taken "+" then return .whole (.repeated least most true node)
          let found : Node := .repeated least most true node
          if (← repetition?).isSome then refuseAt (before + 1) "multiple repeat"
          return found

/-! ## Flags -/

def withFlag? (flags : Flags) (isOn : Bool) (letter : Char) : Option Flags :=
  match letter with
  | 'i' => some { flags with ignoresCase := isOn }
  | 'm' => some { flags with byLine := isOn }
  | 's' => some { flags with dotIsAll := isOn }
  | 'x' => some { flags with isVerbose := isOn }
  | 'a' => some { flags with isAscii := isOn }
  | 'u' | 'L' => some flags
  | _ => none

def flagsFrom (isOn : Bool) : Flags → List Char → Reader Flags
  | flags, [] => return flags
  | flags, letter :: letters => do
      match withFlag? flags isOn letter with
      | some flags => flagsFrom isOn flags letters
      | none => refuse "unknown flag"

/-! ## Groups -/

def isNameCharacter (character : Char) : Bool :=
  character = '_' || Text.isAlphanumeric character

def groupName (closing : Char) : Reader String := do
  let start ← place
  let name ← takeWhile (· ≠ closing)
  if (← next?).isNone then
    if name.isEmpty then refuse "missing group name"
    refuseAt start (String.ofList ("missing ".toList ++ [closing] ++
      ", unterminated name".toList))
  skip 1
  if name.isEmpty then refuseAt start "missing group name"
  return String.ofList name

def newGroup (name : Option String) : Reader Nat := do
  let source ← get
  let number := source.count + 1
  if let some name := name then
    if (source.names.lookup name).isSome then
      refuse ("redefinition of group name '" ++ name ++ "'")
  set { source with
    count := number, openGroups := number :: source.openGroups
    names := source.names ++ name.toList.map (·, number) }
  return number

def closeGroup (number : Nat) : Reader PUnit :=
  modify fun source => { source with openGroups := source.openGroups.filter (· ≠ number) }

def groupNumber (start : Nat) (name : String) : Reader Nat := do
  let source ← get
  match source.names.lookup name, name.toNat? with
  | some number, _ => return number
  | none, some number =>
      if number = 0 ∨ source.count < number then
        refuseAt start ("invalid group reference " ++ name)
      return number
  | none, none => refuseAt start ("unknown group name '" ++ name ++ "'")

def reference (start number : Nat) : Reader Node := do
  let source ← get
  if source.count < number then
    refuseAt (start + 1) ("invalid group reference " ++ Nat.repr number)
  if source.openGroups.contains number then refuseAt start "cannot refer to an open group"
  return .again number source.flags

/-! ## Parts -/

/-- What a backslash outside of sets stands for. -/
def escapedNode (start : Nat) : Reader Node := do
  let flags := (← get).flags
  match ← next? with
  | none => refuseAt start "bad escape (end of pattern)"
  | some letter =>
      skip 1
      let one (character : Char) : Node := .single (.one character) flags
      match kindOf? letter with
      | some item => return .single (.set false [item]) flags
      | none =>
          match letter with
          | 'A' => return .anchor .textStart flags
          | 'Z' => return .anchor .textEnd flags
          | 'b' => return .anchor (.edge true) flags
          | 'B' => return .anchor (.edge false) flags
          | '0' =>
              let more := (← get).rest.take 2 |>.takeWhile isOctal
              skip more.length
              return one (Char.ofNat (Text.ofDigits 8 more))
          | letter =>
              if letter.isDigit then
                match (← get).rest with
                | second :: third :: _ =>
                    if isOctal letter ∧ isOctal second ∧ isOctal third then
                      skip 2
                      return one (Char.ofNat (Text.ofDigits 8 [letter, second, third]))
                    if second.isDigit then
                      skip 1
                      return ← reference start (Text.ofDigits 10 [letter, second])
                    reference start (Text.ofDigits 10 [letter])
                | [second] =>
                    if second.isDigit then
                      skip 1
                      return ← reference start (Text.ofDigits 10 [letter, second])
                    reference start (Text.ofDigits 10 [letter])
                | [] => reference start (Text.ofDigits 10 [letter])
              else return one (← escapedCharacter start letter)

def needClosed (start : Nat) : Reader PUnit := do
  if !(← taken ")") then refuseAt start "missing ), unterminated subpattern"

/-- Read with other flags, which hold no longer after that. -/
def withFlags {α : Type} (flags : Flags) (read : Reader α) : Reader α := do
  let before := (← get).flags
  modify fun source => { source with flags }
  let result ← read
  modify fun source => { source with flags := before }
  return result

def lookBehind (wanted : Bool) (inner : Node) : Reader Node := do
  match inner.widths with
  | (least, some most) =>
      if least ≠ most then throw { reason := "look-behind requires fixed-width pattern" }
      return .behind wanted least inner
  | _ => throw { reason := "look-behind requires fixed-width pattern" }

/-- A part of a pattern behind an opening bracket. -/
def bracketed (choice : Reader Node) (start : Nat) : Reader Node := do
  let closed (read : Reader Node) : Reader Node := do
    let inner ← withFlags (← get).flags read
    needClosed start
    return inner
  let numbered (name : Option String) : Reader Node := do
    let number ← newGroup name
    let inner ← closed choice
    closeGroup number
    return .group number inner
  if !(← taken "?") then numbered none
  else if ← taken ":" then closed choice
  else if ← taken "P<" then
    let place ← place
    let name ← groupName '>'
    if name.toList.head?.any Char.isDigit ∨ !name.toList.all isNameCharacter then
      refuseAt place ("bad character in group name '" ++ name ++ "'")
    numbered (some name)
  else if ← taken "P=" then
    let place ← place
    let name ← groupName ')'
    match (← get).names.lookup name with
    | some number => reference place number
    | none => refuseAt place ("unknown group name '" ++ name ++ "'")
  else if ← taken "#" then
    let _ ← takeWhile (· ≠ ')')
    if !(← taken ")") then refuseAt start "missing ), unterminated comment"
    return .empty
  else if ← taken "=" then return .ahead true (← closed choice)
  else if ← taken "!" then return .ahead false (← closed choice)
  else if ← taken "<=" then lookBehind true (← closed choice)
  else if ← taken "<!" then lookBehind false (← closed choice)
  else if ← taken ">" then return .whole (← closed choice)
  else if ← taken "(" then
    let place ← place
    let number ← groupNumber place (← groupName ')')
    match ← closed choice with
    | .either first second => return .conditional number first second
    | first => return .conditional number first .empty
  else
    let letters ← takeWhile Char.isAlpha
    let flags ← flagsFrom true (← get).flags letters
    let flags ←
      if ← taken "-" then
        let letters ← takeWhile Char.isAlpha
        flagsFrom false flags letters
      else pure flags
    if ← taken ":" then
      let inner ← withFlags flags choice
      needClosed start
      return inner
    if letters.isEmpty then
      match ← next? with
      | some character =>
          refuseAt (start + 1) (String.ofList ("unknown extension ?".toList ++ [character]))
      | none => refuse "unexpected end of pattern"
    if !(← taken ")") then refuse "missing -, : or )"
    if start ≠ 0 then refuseAt start "global flags not at the start of the expression"
    modify fun source => { source with flags }
    return .empty

def part (choice : Reader Node) : Reader (Option Node) := do
  let start ← place
  let flags := (← get).flags
  match ← next? with
  | none | some '|' | some ')' => return none
  | some character =>
      skip 1
      match character with
      | '(' => some <$> bracketed choice start
      | '\\' => some <$> escapedNode start
      | '.' => return some (.single .any flags)
      | '^' => return some (.anchor .lineStart flags)
      | '$' => return some (.anchor .lineEnd flags)
      | '[' =>
          let negated ← taken "^"
          return some (.single (.set negated (← items start ((← get).size + 1) true)) flags)
      | '*' | '+' | '?' => refuseAt start "nothing to repeat"
      | character =>
          if character = '\x7b' ∧ (bounds? (← get).rest).isSome then
            refuseAt start "nothing to repeat"
          return some (.single (.one character) flags)

def skipBlanks : (fuel : Nat) → Reader PUnit
  | 0 => return
  | fuel + 1 => do
      if !(← get).flags.isVerbose then return
      match ← next? with
      | some '#' =>
          let _ ← takeWhile (· ≠ '\n')
          skipBlanks fuel
      | some character =>
          if Text.isBlank character then
            skip 1
            skipBlanks fuel
      | none => return

def parts (choice : Reader Node) : (fuel : Nat) → Reader Node
  | 0 => return .empty
  | fuel + 1 => do
      skipBlanks ((← get).size + 1)
      let start ← place
      match ← part choice with
      | none => return .empty
      | some node =>
          skipBlanks ((← get).size + 1)
          let node ← withRepetition start node
          match ← parts choice fuel with
          | .empty => return node
          | others => return .both node others

def choice : (depth : Nat) → Reader Node
  | 0 => refuse "pattern too deep"
  | depth + 1 => do
      let first ← parts (choice depth) ((← get).size + 1)
      if ← taken "|" then return .either first (← choice depth)
      return first

def deepest : Nat := 500

def read (flags : Flags) (text : List Char) : Except Refusal Whole := do
  let read : Reader Node := do
    let node ← choice deepest
    if (← next?).isSome then refuse "unbalanced parenthesis"
    return node
  let (node, source) ← read.run { rest := text, size := text.length, flags }
  return { node, count := source.count, names := source.names, flags := source.flags }

end Pattern

end BuiltinWrappers.Script.Indented
