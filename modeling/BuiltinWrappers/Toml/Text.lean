import BuiltinWrappers.Text.Digits

/-!
# Quoted text of a document

Text stands between single quotes, where every character is itself, or between
double quotes, where a backslash begins an escape.  Three quotes open a text
over several lines, in which a line feed right after them is left out.  The body
of a text is first cut off at its closing quotes and then read.
-/

namespace BuiltinWrappers.Toml

/-! ## Characters -/

/-- The tab is the only control character that a line may hold. -/
def isLineCharacter (character : Char) : Bool :=
  character = '\t' || (' ' ≤ character && character ≠ '\x7f')

def isSpace (character : Char) : Bool := character = ' ' || character = '\t'

def lineEnding? : List Char → Option (List Char)
  | '\n' :: rest => some rest
  | '\r' :: '\n' :: rest => some rest
  | _ => none

def dropLineEnding (text : List Char) : List Char := (lineEnding? text).getD text

/-! ## Cutting a body off -/

def lineBody? (quote : Char) (escapes : Bool) :
    List Char → Option (List Char × List Char)
  | [] => none
  | [first] => if first = quote then some ([], []) else none
  | first :: second :: rest =>
      if first = quote then some ([], second :: rest)
      else if escapes ∧ first = '\\' then
        if isLineCharacter second then
          (lineBody? quote escapes rest).map fun (body, rest) =>
            (first :: second :: body, rest)
        else none
      else if isLineCharacter first then
        (lineBody? quote escapes (second :: rest)).map fun (body, rest) =>
          (first :: body, rest)
      else none

def closingQuotes (quote : Char) (afterThree : List Char) : List Char × List Char :=
  let extra := (afterThree.take 2).takeWhile (· = quote)
  (extra, afterThree.drop extra.length)

def isBlockCharacter (character : Char) (rest : List Char) : Bool :=
  isLineCharacter character || character = '\n' ||
    (character = '\r' && rest.head? = some '\n')

def blockBody? (quote : Char) (escapes : Bool) :
    List Char → Option (List Char × List Char)
  | first :: second :: third :: rest =>
      if first = quote ∧ second = quote ∧ third = quote then
        some (closingQuotes quote rest)
      else if escapes ∧ first = '\\' then
        if isBlockCharacter second (third :: rest) then
          (blockBody? quote escapes (third :: rest)).map fun (body, rest) =>
            (first :: second :: body, rest)
        else none
      else if isBlockCharacter first (second :: third :: rest) then
        (blockBody? quote escapes (second :: third :: rest)).map fun (body, rest) =>
          (first :: body, rest)
      else none
  | _ => none

/-! ## Reading escapes -/

def shortEscape? : Char → Option Char
  | 'b' => some '\x08'
  | 't' => some '\t'
  | 'n' => some '\n'
  | 'f' => some '\x0c'
  | 'r' => some '\r'
  | 'e' => some '\x1b'
  | '"' => some '"'
  | '\\' => some '\\'
  | _ => none

def codePoint? (digits : List Char) : Option Char :=
  let code := Text.ofDigits 16 digits
  if digits.all (Text.isDigitOf 16) ∧ code.isValidChar then some (Char.ofNat code) else none

/-- Whether the rest of a line is blank, so that a backslash before it joins lines. -/
def joinsLines (text : List Char) : Bool :=
  (lineEnding? (text.dropWhile isSpace)).isSome

/--
Read the escapes of a body.  A backslash at the end of a line leaves out the
line ending and all spaces and line endings after it.
-/
def unescape? (joining : Bool) : List Char → Option (List Char)
  | [] => some []
  | '\\' :: 'x' :: a :: b :: rest => do
      return (← codePoint? [a, b]) :: (← unescape? false rest)
  | '\\' :: 'u' :: a :: b :: c :: d :: rest => do
      return (← codePoint? [a, b, c, d]) :: (← unescape? false rest)
  | '\\' :: 'U' :: a :: b :: c :: d :: e :: f :: g :: h :: rest => do
      return (← codePoint? [a, b, c, d, e, f, g, h]) :: (← unescape? false rest)
  | '\\' :: character :: rest =>
      if joinsLines (character :: rest) then unescape? true rest
      else do
        return (← shortEscape? character) :: (← unescape? false rest)
  | character :: rest =>
      if joining ∧ (isSpace character ∨ character = '\n' ∨ character = '\r') then
        unescape? true rest
      else (unescape? false rest).map (character :: ·)

/-! ## Whole texts -/

/-- A text on one line, as keys have it too. -/
def lineText? : List Char → Option (List Char × List Char)
  | '"' :: rest => do
      let (body, rest) ← lineBody? '"' true rest
      return (← unescape? false body, rest)
  | '\'' :: rest => lineBody? '\'' false rest
  | _ => none

def text? : List Char → Option (List Char × List Char)
  | '"' :: '"' :: '"' :: rest => do
      let (body, rest) ← blockBody? '"' true (dropLineEnding rest)
      return (← unescape? false body, rest)
  | '\'' :: '\'' :: '\'' :: rest => blockBody? '\'' false (dropLineEnding rest)
  | text => lineText? text

/-! ## Examples -/

example : text? "\"a\\tb\\u00e9\" x".toList = some ("a\tbé".toList, " x".toList) := by
  decide +kernel

example : text? "'''\na''b'''''".toList = some ("a''b''".toList, []) := by
  decide +kernel

example : text? "\"\"\"a\\  \n\n  b\"\"\"".toList = some ("ab".toList, []) := by
  decide +kernel

end BuiltinWrappers.Toml
