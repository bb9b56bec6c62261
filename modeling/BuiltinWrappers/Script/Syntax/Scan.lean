import BuiltinWrappers.Script.Syntax
import BuiltinWrappers.Text.Digits

/-!
# Between the words of a script

Blanks, comments and line ends that separate words, the texts that reach to a
closing sign, and the documents that stand below the line that mentions them.
-/

namespace BuiltinWrappers.Script

open Text (Octets)

inductive SyntaxFault where
  | unexpected (rest : Octets)
  | unfinished
  | badSubstitution
  | tooDeep
  deriving Repr

abbrev Parser := StateT Octets (Except SyntaxFault)

namespace Parser

/-! ## Blanks, comments and line ends -/

def skipBlanks : Octets → Octets
  | '\\' :: '\n' :: rest => skipBlanks rest
  | ' ' :: rest => skipBlanks rest
  | '\t' :: rest => skipBlanks rest
  | text => text

def skipComment (text : Octets) : Octets :=
  let text := skipBlanks text
  if text.head? = some '#' then text.dropWhile (· ≠ '\n') else text

def skipLinesWithin : (fuel : Nat) → Octets → Octets
  | 0, text => text
  | fuel + 1, text =>
      match skipComment text with
      | '\n' :: rest => skipLinesWithin fuel rest
      | rest => rest

def skipLines (text : Octets) : Octets := skipLinesWithin (text.length + 1) text

def leadingRun (text : Octets) : Octets := text.takeWhile (!wordEnds.contains ·)

/-! ## Steps -/

def fail {α : Type} : Parser α := do
  let text ← get
  throw (if text.isEmpty then .unfinished else .unexpected text)

def accept (literal : Octets) : Parser Bool := do
  let text ← get
  if literal.isPrefixOf text then
    set (text.drop literal.length)
    return true
  else return false

def expect (literal : Octets) : Parser Unit := do
  if !(← accept literal) then fail

def onText {α : Type} (text : Octets) (parser : Parser α) : Parser α := do
  match parser text with
  | .error fault => throw fault
  | .ok (value, []) => return value
  | .ok (_, rest) => throw (.unexpected rest)

def repeatedly {α : Type} (parser : Parser (Option α)) : (fuel : Nat) → Parser (List α)
  | 0 => throw .tooDeep
  | fuel + 1 => do
      match ← parser with
      | none => return []
      | some value => return value :: (← repeatedly parser fuel)

def many {α : Type} (parser : Parser (Option α)) : Parser (List α) := do
  repeatedly parser ((← get).length + 1)

/-! ## Texts up to a closing sign -/

def backquoted? (quoted : Bool) : Octets → Option (Octets × Octets)
  | [] => none
  | '\x60' :: rest => some ([], rest)
  | '\\' :: character :: rest =>
      (backquoted? quoted rest).map fun (body, rest) =>
        if ['$', '\x60', '\\'].contains character ∨ (quoted ∧ character = '"') then
          (character :: body, rest)
        else ('\\' :: character :: body, rest)
  | character :: rest =>
      (backquoted? quoted rest).map fun (body, rest) => (character :: body, rest)

def calculation? : (depth : Nat) → Octets → Option (Octets × Octets)
  | _, [] => none
  | depth, '(' :: rest =>
      (calculation? (depth + 1) rest).map fun (body, rest) => ('(' :: body, rest)
  | 0, ')' :: ')' :: rest => some ([], rest)
  | 0, ')' :: _ => none
  | depth + 1, ')' :: rest =>
      (calculation? depth rest).map fun (body, rest) => (')' :: body, rest)
  | depth, character :: rest =>
      (calculation? depth rest).map fun (body, rest) => (character :: body, rest)

/-! ## Escapes between dollar quotes -/

def octet (code : Nat) : Char := Char.ofNat (code % 256)

def simpleEscape? : Char → Option Char
  | 'a' => some '\x07'
  | 'b' => some '\x08'
  | 'e' => some '\x1b'
  | 'f' => some '\x0c'
  | 'n' => some '\n'
  | 'r' => some '\r'
  | 't' => some '\t'
  | 'v' => some '\x0b'
  | _ => none

def encoded (code : Nat) : Octets :=
  let written (letter : Char) (width : Nat) : Octets :=
    let digits := (Nat.toDigits 16 code).map Char.toUpper
    '\\' :: letter :: (List.replicate (width - digits.length) '0' ++ digits)
  if code < 128 then [Char.ofNat code]
  else if code < 65536 then written 'u' 4
  else written 'U' 8

def dollarQuoted? : (fuel : Nat) → Octets → Option (Octets × Octets)
  | 0, _ | _, [] => none
  | _ + 1, '\'' :: rest => some ([], rest)
  | fuel + 1, '\\' :: character :: rest =>
      let go (front rest : Octets) :=
        (dollarQuoted? fuel rest).map fun (body, rest) => (front ++ body, rest)
      if Text.isDigitOf 8 character then
        let (digits, after) := Text.splitDigits 8 3 (character :: rest)
        go [octet (Text.ofDigits 8 digits)] after
      else if character = 'x' then
        let (digits, after) := Text.splitDigits 16 2 rest
        if digits = [] then go ['\\', 'x'] rest
        else go [octet (Text.ofDigits 16 digits)] after
      else if character = 'u' ∨ character = 'U' then
        let (digits, after) := Text.splitDigits 16 (if character = 'u' then 4 else 8) rest
        if digits = [] then go ['\\', character] rest
        else go (encoded (Text.ofDigits 16 digits)) after
      else if ['\\', '\'', '"', '?'].contains character then go [character] rest
      else
        match simpleEscape? character with
        | some meant => go [meant] rest
        | none => go ['\\', character] rest
  | fuel + 1, character :: rest =>
      (dollarQuoted? fuel rest).map fun (body, rest) => (character :: body, rest)

def bracketed? : (depth : Nat) → Octets → Option (Octets × Octets)
  | _, [] => none
  | depth, character :: rest =>
      let extend (depth : Nat) : Option (Octets × Octets) :=
        (bracketed? depth rest).map fun (inner, rest) => (character :: inner, rest)
      if character = '[' then extend (depth + 1)
      else if character = ']' then
        match depth with
        | 0 => some ([], rest)
        | depth + 1 => extend depth
      else extend depth

/-! ## Documents below a line -/

inductive LineQuote where
  | bare
  | single
  | double
  deriving DecidableEq, Repr

def splitLine : LineQuote → Octets → Octets × Octets
  | _, [] => ([], [])
  | quote, '\\' :: character :: rest =>
      if quote = .single then
        let quote : LineQuote := if character = '\'' then .bare else .single
        let (line, rest) := splitLine quote rest
        ('\\' :: character :: line, rest)
      else
        let (line, rest) := splitLine quote rest
        ('\\' :: character :: line, rest)
  | quote, character :: rest =>
      if character = '\n' ∧ quote = .bare then (['\n'], rest)
      else
        let quote : LineQuote :=
          match quote, character with
          | .bare, '\'' => .single
          | .bare, '"' => .double
          | .single, '\'' => .bare
          | .double, '"' => .bare
          | quote, _ => quote
        let (line, rest) := splitLine quote rest
        (character :: line, rest)

def withoutTabs (line : Octets) : Octets := line.dropWhile (· = '\t')

def documentLines (dropTabs : Bool) (delimiter : Octets) :
    (fuel : Nat) → Octets → Octets × Octets
  | 0, text => ([], text)
  | _, [] => ([], [])
  | fuel + 1, text =>
      let line := text.takeWhile (· ≠ '\n')
      let rest := (text.dropWhile (· ≠ '\n'))
      let line := if dropTabs then withoutTabs line else line
      if line = delimiter then ([], rest.tail)
      else
        let (body, after) := documentLines dropTabs delimiter fuel rest.tail
        (line ++ rest.take 1 ++ body, after)

def takeDocument (dropTabs : Bool) (delimiter : Octets) : Parser Octets := do
  let (line, below) := splitLine .bare (← get)
  let (body, after) := documentLines dropTabs delimiter (below.length + 1) below
  set (line ++ after)
  return body

end Parser

end BuiltinWrappers.Script
