import BuiltinWrappers.Binary64
import BuiltinWrappers.Text.Alphabetic
import BuiltinWrappers.Text.Digits

/-!
# Tokens of indented scripts

In an indented script the blocks are told by how far their lines are indented.
The text is cut into names, numbers, quoted texts and signs, with tokens for the
ends of lines and for the places where the indentation grows or shrinks.
-/

namespace BuiltinWrappers.Script.Indented

inductive Token where
  | lineEnd
  | deeper
  | shallower
  | name (name : String)
  | integer (value : Int)
  | real (value : Binary64)
  | text (characters : List Char)
  | bytes (characters : List Char)
  | formatted (raw : Bool) (source : List Char)
  | sign (sign : String)
  deriving DecidableEq, Repr

namespace Token

def signs : List String :=
  ["**=", "//=", ">>=", "<<=", "...", "->", ":=", "==", "!=", "<=", ">=", "+=", "-=", "*=",
   "/=", "%=", "&=", "|=", "^=", "@=", "**", "//", "<<", ">>", "+", "-", "*", "/", "%", "@", "&",
   "|", "^", "~", "<", ">", "(", ")", "[", "]", "\x7b", "\x7d", ",", ":", ".", ";", "="]

def isNameStart (character : Char) : Bool :=
  character.isAlpha || character = '_' ||
    (128 ≤ character.toNat && Text.isAlphabetic character)

def isNameCharacter (character : Char) : Bool := isNameStart character || character.isDigit

/-! ## Quoted texts -/

def simpleEscape? : Char → Option (List Char)
  | '\n' => some []
  | '\\' => some ['\\']
  | '\'' => some ['\'']
  | '"' => some ['"']
  | 'a' => some ['\x07']
  | 'b' => some ['\x08']
  | 'f' => some ['\x0c']
  | 'n' => some ['\n']
  | 'r' => some ['\r']
  | 't' => some ['\t']
  | 'v' => some ['\x0b']
  | _ => none

def coded? (count : Nat) (text : List Char) : Option (List Char × List Char) :=
  let (digits, rest) := Text.splitDigits 16 count text
  if digits.length = count then some ([Char.ofNat (Text.ofDigits 16 digits)], rest) else none

def escape (octets : Bool) (text : List Char) : List Char × List Char :=
  match text with
  | [] => (['\\'], [])
  | character :: rest =>
      if Text.isDigitOf 8 character then
        let (digits, rest) := Text.splitDigits 8 3 text
        ([Char.ofNat (Text.ofDigits 8 digits)], rest)
      else
        let named : Option (List Char × List Char) :=
          match character, octets with
          | 'x', _ => coded? 2 rest
          | 'u', false => coded? 4 rest
          | 'U', false => coded? 8 rest
          | character, _ => (simpleEscape? character).map fun meant => (meant, rest)
        named.getD (['\\', character], rest)

def unescapeWithin (octets : Bool) : (fuel : Nat) → List Char → List Char
  | 0, characters => characters
  | _, [] => []
  | fuel + 1, '\\' :: rest =>
      let (meant, rest) := escape octets rest
      meant ++ unescapeWithin octets fuel rest
  | fuel + 1, character :: rest => character :: unescapeWithin octets fuel rest

def unescape (octets : Bool) (text : List Char) : List Char :=
  unescapeWithin octets (text.length + 1) text

def escapesWell : List Char → Bool
  | '\\' :: 'x' :: rest => (coded? 2 rest).isSome && escapesWell rest
  | '\\' :: 'u' :: rest => (coded? 4 rest).isSome && escapesWell rest
  | '\\' :: 'U' :: rest => (coded? 8 rest).isSome && escapesWell rest
  | '\\' :: _ :: rest => escapesWell rest
  | _ :: rest => escapesWell rest
  | [] => true

def quoted? (quotes : List Char) : List Char → Option (List Char × List Char)
  | [] => none
  | character :: rest =>
      if quotes.isPrefixOf (character :: rest) then
        some ([], (character :: rest).drop quotes.length)
      else if character = '\n' ∧ quotes.length = 1 then none
      else if character = '\\' then
        match rest with
        | [] => none
        | covered :: rest =>
            (quoted? quotes rest).map fun (body, rest) => ('\\' :: covered :: body, rest)
      else (quoted? quotes rest).map fun (body, rest) => (character :: body, rest)

def ofQuoted? (letters : List Char) (text : List Char) : Option (Token × List Char) := do
  let quote ← text.head?
  if quote ≠ '\'' ∧ quote ≠ '"' then none
  let triple := List.replicate 3 quote
  let quotes := if triple.isPrefixOf text then triple else [quote]
  let (body, rest) ← quoted? quotes (text.drop quotes.length)
  let letters := letters.map Char.toLower
  let raw := letters.contains 'r'
  let octets := letters.contains 'b'
  if octets ∧ body.any (127 < ·.toNat) then none
  if !raw ∧ !octets ∧ !escapesWell body then none
  let meant := if raw then body else unescape octets body
  if letters.contains 'f' then return (.formatted raw body, rest)
  else if octets then return (.bytes meant, rest)
  else return (.text meant, rest)

def isQuotePrefix (letters : List Char) : Bool :=
  ["r", "b", "f", "u", "rb", "br", "rf", "fr"].contains
    (String.ofList (letters.map Char.toLower))

/-! ## Single tokens -/

def digitRun (base : Nat) : List Char → List Char × List Char
  | '_' :: digit :: rest =>
      if Text.isDigitOf base digit then
        let (digits, rest) := digitRun base rest
        (digit :: digits, rest)
      else ([], '_' :: digit :: rest)
  | digit :: rest =>
      if Text.isDigitOf base digit then
        let (digits, rest) := digitRun base rest
        (digit :: digits, rest)
      else ([], digit :: rest)
  | [] => ([], [])

def plainDigitRun (base : Nat) (text : List Char) : List Char × List Char :=
  if text.head? = some '_' then ([], text) else digitRun base text

def exponent (text : List Char) : Option Int × List Char :=
  match text with
  | letter :: rest =>
      let unsigned := if rest.head? = some '-' ∨ rest.head? = some '+' then rest.tail else rest
      let (digits, after) := plainDigitRun 10 unsigned
      if letter.toLower ≠ 'e' ∨ digits.isEmpty then (none, text)
      else
        let value : Int := Text.ofDigits 10 digits
        (some (if rest.head? = some '-' then -value else value), after)
  | [] => (none, [])

def ofDecimal? (text : List Char) : Option (Token × List Char) :=
  let (whole, rest) := plainDigitRun 10 text
  let (fraction, rest) :=
    match rest with
    | '.' :: after =>
        let (digits, rest) := plainDigitRun 10 after
        (some digits, rest)
    | rest => (none, rest)
  let (scale, rest) := exponent rest
  if fraction.isNone ∧ scale.isNone then
    if whole.head? = some '0' ∧ whole.any (· ≠ '0') then none
    else some (.integer (Text.ofDigits 10 whole), rest)
  else
    let digits := whole ++ fraction.getD []
    let power := scale.getD 0 - (fraction.getD []).length
    let value := (Binary64.ofDecimal? false (Text.ofDigits 10 digits) power).getD (.infinite false)
    some (.real value, rest)

def ofNumber? (text : List Char) : Option (Token × List Char) := do
  let (token, rest) ←
    match text with
    | '0' :: letter :: rest =>
        let base? := [('x', 16), ('o', 8), ('b', 2)].lookup letter.toLower
        match base? with
        | some base =>
            let (digits, rest) := digitRun base rest
            if digits.isEmpty then none
            else some (.integer (Text.ofDigits base digits), rest)
        | none => ofDecimal? text
    | _ => ofDecimal? text
  if rest.head?.any (fun character => character = '_' || character.isDigit) then none
  else return (token, rest)

def next? (text : List Char) : Option (Token × List Char) := do
  let first ← text.head?
  if first.isDigit ∨ (first = '.' ∧ text.tail.head?.any Char.isDigit) then ofNumber? text
  else if first = '\'' ∨ first = '"' then ofQuoted? [] text
  else if isNameStart first then
    let name := text.takeWhile isNameCharacter
    let rest := text.drop name.length
    match if isQuotePrefix name then ofQuoted? name rest else none with
    | some found => return found
    | none => return (.name (String.ofList name), rest)
  else
    let found ← signs.find? fun known => known.toList.isPrefixOf text
    return (.sign found, text.drop found.length)

/-! ## Whole scripts -/

/--
How far a line is indented, where a tab reaches to the next multiple of eight, and
how many blanks stand there, where a tab counts like any other.
-/
def indentation (line : List Char) : Nat × Nat :=
  (line.takeWhile fun character =>
      character = ' ' || character = '\t' || character = '\x0c').foldl
    (fun (width, count) character =>
      if character = '\t' then ((width / 8 + 1) * 8, count + 1)
      else if character = '\x0c' then (0, 0)
      else (width + 1, count + 1))
    (0, 0)

/--
The tokens for a line that is indented so far, and the indentations that are open
then.  Both measures of two indentations must agree which one is greater.
-/
def indentTokens? (width : Nat × Nat) :
    List (Nat × Nat) → Option (List Token × List (Nat × Nat))
  | [] => if width = (0, 0) then some ([], [])
      else if 0 < width.1 ∧ 0 < width.2 then some ([.deeper], [width])
      else none
  | inner :: others =>
      if inner.1 < width.1 then
        if inner.2 < width.2 then some ([.deeper], width :: inner :: others) else none
      else if width.1 = inner.1 then
        if width.2 = inner.2 then some ([], inner :: others) else none
      else if (others.headD (0, 0)).1 < width.1 then none
      else (indentTokens? width others).map fun (tokens, widths) => (.shallower :: tokens, widths)

def isOpening (sign : String) : Bool := sign = "(" || sign = "[" || sign = "\x7b"

def isClosing (sign : String) : Bool := sign = ")" || sign = "]" || sign = "\x7d"

def bracketsAfter? (brackets : List String) : Token → Option (List String)
  | .sign found =>
      if isOpening found then some (found :: brackets)
      else if isClosing found then
        match brackets with
        | [] => none
        | opening :: outer =>
            if (opening, found) = ("(", ")") ∨ (opening, found) = ("[", "]") ∨
                (opening, found) = ("\x7b", "\x7d") then some outer
            else none
      else some brackets
  | _ => some brackets

def isLineBlank (character : Char) : Bool :=
  character = ' ' || character = '\t' || character = '\x0c'

/--
The tokens of a text behind those that were found, the last one first, given which
brackets and indentations are open.
-/
def allWithin : (fuel : Nat) → (found : List Token) → (brackets : List String) →
    (widths : List (Nat × Nat)) → (lineStart : Bool) → List Char → Option (List Token)
  | 0, _, _, _, _, _ => none
  | _, found, brackets, widths, lineStart, [] =>
      if brackets.isEmpty then
        some (found.reverse ++ (if lineStart then [] else [.lineEnd]) ++
          widths.map fun _ => .shallower)
      else none
  | fuel + 1, found, brackets, widths, true, characters =>
      let line := characters.dropWhile isLineBlank
      if line.head?.all (· = '\n') then allWithin fuel found brackets widths true line.tail
      else if line.head? = some '#' then
        allWithin fuel found brackets widths true (line.dropWhile (· ≠ '\n')).tail
      else
        match indentTokens? (indentation characters) widths with
        | some (tokens, widths) =>
            allWithin fuel (tokens.reverse ++ found) brackets widths false line
        | none => none
  | fuel + 1, found, brackets, widths, false, character :: rest =>
      if isLineBlank character then allWithin fuel found brackets widths false rest
      else if character = '#' then
        allWithin fuel found brackets widths false (rest.dropWhile (· ≠ '\n'))
      else if character = '\n' then
        if brackets.isEmpty then allWithin fuel (.lineEnd :: found) brackets widths true rest
        else allWithin fuel found brackets widths false rest
      else if character = '\\' ∧ rest.head? = some '\n' then
        allWithin fuel found brackets widths false rest.tail
      else
        match next? (character :: rest) with
        | some (token, rest) =>
            match bracketsAfter? brackets token with
            | some brackets => allWithin fuel (token :: found) brackets widths false rest
            | none => none
        | none => none

def ofScript? (text : List Char) : Option (List Token) :=
  allWithin (2 * text.length + 4) [] [] [] true text

def ofExpression? (text : List Char) : Option (List Token) :=
  ofScript? ('(' :: text ++ [')'])

/-! ## Examples -/

example : ofScript? "if x:\n  y = 'a\\n'\n".toList =
    some [.name "if", .name "x", .sign ":", .lineEnd, .deeper, .name "y", .sign "=",
      .text ['a', '\n'], .lineEnd, .shallower] := by decide +kernel

end Token

end BuiltinWrappers.Script.Indented
