import BuiltinWrappers.Text.Digits
import BuiltinWrappers.Text.Octets

/-!
# Tokens of record scripts

The text of a record script is cut into names, numbers, quoted texts, regular
expressions and signs.  A slash begins an expression where no operand can end.
-/

namespace BuiltinWrappers.Script.Record

open Text (Octets)

inductive Token where
  | lineEnd
  | number (value : Rat)
  | quoted (octets : Octets)
  | regex (source : Octets)
  | name (name : String)
  | called (name : String)
  | sign (sign : String)
  deriving DecidableEq

namespace Token

def signs : List String :=
  ["&&", "||", "++", "--", "+=", "-=", "*=", "/=", "%=", "^=", "==", "<=", ">=", "!=",
   ">>", "!~", "\x7b", "\x7d", "(", ")", "[", "]", ";", ",", "+", "-", "*", "/", "%", "^", "!",
   ">", "<", "|", "?", ":", "~", "$", "="]

/-! ## Numbers -/

def powerOfTen (exponent : Int) : Rat :=
  if exponent < 0 then mkRat 1 (Nat.pow 10 exponent.natAbs)
  else mkRat (Nat.pow 10 exponent.natAbs) 1

def exponent (text : Octets) : Int × Octets :=
  match text with
  | letter :: rest =>
      let unsigned := if rest.head? = some '-' ∨ rest.head? = some '+' then rest.tail else rest
      let digits := unsigned.takeWhile Char.isDigit
      if (letter ≠ 'e' ∧ letter ≠ 'E') ∨ digits.isEmpty then (0, text)
      else
        let value : Int := min (Text.ofDigits 10 digits) 400
        (if rest.head? = some '-' then -value else value, unsigned.drop digits.length)
  | [] => (0, [])

def number? (text : Octets) : Option (Rat × Octets) :=
  let whole := text.takeWhile Char.isDigit
  let (fraction, rest) :=
    match text.drop whole.length with
    | '.' :: rest => (rest.takeWhile Char.isDigit, rest.dropWhile Char.isDigit)
    | rest => ([], rest)
  if whole.isEmpty ∧ fraction.isEmpty then none
  else
    let (power, rest) := exponent rest
    let digits : Rat := mkRat (Text.ofDigits 10 (whole ++ fraction)) 1
    some (digits * powerOfTen (power - fraction.length), rest)

/-! ## Quoted texts and expressions -/

def unescape : (fuel : Nat) → Octets → Octets
  | 0, text => text
  | _ + 1, [] => []
  | fuel + 1, '\\' :: octet :: rest =>
      if Text.isDigitOf 8 octet then
        let (digits, rest) := Text.splitDigits 8 3 (octet :: rest)
        Char.ofNat (Text.ofDigits 8 digits % 256) :: unescape fuel rest
      else
        let meant : Octets :=
          match octet with
          | 'n' => ['\n']
          | 't' => ['\t']
          | 'r' => ['\r']
          | 'a' => ['\x07']
          | 'b' => ['\x08']
          | 'f' => ['\x0c']
          | 'v' => ['\x0b']
          | '"' => ['"']
          | '/' => ['/']
          | '\\' => ['\\']
          | '\n' => []
          | octet => ['\\', octet]
        meant ++ unescape fuel rest
  | fuel + 1, octet :: rest => octet :: unescape fuel rest

def upTo? (closing : Char) : Octets → Option (Octets × Octets)
  | [] => none
  | '\\' :: octet :: rest =>
      (upTo? closing rest).map fun (body, rest) => ('\\' :: octet :: body, rest)
  | octet :: rest =>
      if octet = closing then some ([], rest)
      else if octet = '\n' then none
      else (upTo? closing rest).map fun (body, rest) => (octet :: body, rest)

/-! ## Tokens -/

def isNameStart (octet : Char) : Bool := octet.isAlpha || octet = '_'

def isNameOctet (octet : Char) : Bool := isNameStart octet || octet.isDigit

def endsOperand : Option Token → Bool
  | some (.number _) | some (.quoted _) | some (.regex _) | some (.name _) => true
  | some (.sign written) => [")", "]", "$", "++", "--"].contains written
  | _ => false

def isWord (name : String) : Bool :=
  ["BEGIN", "END", "function", "func", "if", "else", "while", "for", "do", "break", "continue",
   "next", "nextfile", "exit", "return", "delete", "in", "getline", "print", "printf"].contains
    name

def next? (previous : Option Token) (text : Octets) : Option (Token × Octets) := do
  let first ← text.head?
  let afterOperand := endsOperand previous &&
    !(match previous with
      | some (.name word) => isWord word
      | _ => false)
  if first.isDigit ∨ (first = '.' ∧ text.tail.head?.any Char.isDigit) then
    let (value, rest) ← number? text
    return (.number value, rest)
  else if first = '"' then
    let (body, rest) ← upTo? '"' text.tail
    return (.quoted (unescape (body.length + 1) body), rest)
  else if first = '/' ∧ !afterOperand then
    let (body, rest) ← upTo? '/' text.tail
    return (.regex body, rest)
  else if isNameStart first then
    let name := text.takeWhile isNameOctet
    let rest := text.drop name.length
    let word := String.ofList name
    if rest.head? = some '(' ∧ !isWord word then return (.called word, rest)
    return (.name word, rest)
  else
    let found ← signs.find? fun known => known.toList.isPrefixOf text
    return (.sign found, text.drop found.length)

def goesOn : Option Token → Bool
  | some (.sign written) => ["\x7b", "&&", "||", ",", ";"].contains written
  | some (.name word) => word = "do" || word = "else"
  | some .lineEnd | none => true
  | _ => false

def allWithin : (fuel : Nat) → (previous : Option Token) → Octets → Option (List Token)
  | 0, _, _ => none
  | _ + 1, _, [] => some [.lineEnd]
  | fuel + 1, previous, octet :: rest =>
      if octet = ' ' ∨ octet = '\t' ∨ octet = '\r' then allWithin fuel previous rest
      else if octet = '\\' ∧ rest.head? = some '\n' then allWithin fuel previous rest.tail
      else if octet = '#' then allWithin fuel previous (rest.dropWhile (· ≠ '\n'))
      else if octet = '\n' then
        if goesOn previous then allWithin fuel previous rest
        else (allWithin fuel (some .lineEnd) rest).map (.lineEnd :: ·)
      else do
        let (token, rest) ← next? previous (octet :: rest)
        return token :: (← allWithin fuel (some token) rest)

def all? (text : Octets) : Option (List Token) := allWithin (2 * text.length + 2) none text

end Token

end BuiltinWrappers.Script.Record
