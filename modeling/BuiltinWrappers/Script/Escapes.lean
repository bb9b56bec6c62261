import BuiltinWrappers.Script.Syntax.Scan

/-!
# Escapes in printed text

What a backslash and the characters after it stand for in text that is to be
printed.  Styles differ in the octal numbers and in the further escapes that
they know, and in one of them an escape ends all output.
-/

namespace BuiltinWrappers.Script

open Text (Octets)

inductive OctalStyle where
  | plain
  | zeroFirst
  | either
  deriving DecidableEq, Repr

structure EscapeStyle where
  octal : OctalStyle
  hexadecimal : Bool
  stops : Bool
  deriving DecidableEq, Repr

namespace EscapeStyle

def format (dialect : Dialect) : EscapeStyle := ⟨.plain, dialect = .extended, false⟩

def argument (dialect : Dialect) : EscapeStyle := ⟨.either, dialect = .extended, true⟩

def echo (dialect : Dialect) : EscapeStyle :=
  match dialect with
  | .plain => ⟨.either, false, true⟩
  | .extended => ⟨.zeroFirst, true, true⟩

def octalDigits (style : EscapeStyle) (text : Octets) : Octets × Octets :=
  match style.octal, text with
  | .plain, text => Text.splitDigits 8 3 text
  | .zeroFirst, '0' :: rest =>
      let (digits, rest) := Text.splitDigits 8 3 rest
      ('0' :: digits, rest)
  | .zeroFirst, text => ([], text)
  | .either, '0' :: rest =>
      let (digits, rest) := Text.splitDigits 8 3 rest
      ('0' :: digits, rest)
  | .either, text => Text.splitDigits 8 3 text

def byCode (style : EscapeStyle) (letter : Char) (limit : Nat) (text : Octets) :
    Octets × Octets :=
  match style.hexadecimal, Text.splitDigits 16 limit text with
  | true, (digit :: digits, rest) =>
      (Parser.encoded (Text.ofDigits 16 (digit :: digits)), rest)
  | _, _ => (['\\', letter], text)

def escape? (style : EscapeStyle) (text : Octets) : Option (Octets × Octets) :=
  match style.octalDigits text with
  | (digit :: digits, rest) => some ([Parser.octet (Text.ofDigits 8 (digit :: digits))], rest)
  | ([], _) =>
      match text with
      | 'c' :: rest => if style.stops then none else some (['\\', 'c'], rest)
      | '\\' :: rest => some (['\\'], rest)
      | '"' :: rest =>
          some (if style.octal = .plain then (['"'], rest) else (['\\', '"'], rest))
      | 'x' :: rest =>
          match style.hexadecimal, Text.splitDigits 16 2 rest with
          | true, (digit :: digits, rest) =>
              some ([Parser.octet (Text.ofDigits 16 (digit :: digits))], rest)
          | _, _ => some (['\\', 'x'], rest)
      | 'u' :: rest => some (style.byCode 'u' 4 rest)
      | 'U' :: rest => some (style.byCode 'U' 8 rest)
      | character :: rest =>
          match Parser.simpleEscape? character with
          | some meant => some ([meant], rest)
          | none => some (['\\', character], rest)
      | [] => some (['\\'], [])

def readWithin (style : EscapeStyle) : (fuel : Nat) → Octets → Octets × Bool
  | 0, _ | _, [] => ([], true)
  | fuel + 1, '\\' :: rest =>
      match style.escape? rest with
      | none => ([], false)
      | some (meant, rest) =>
          let (others, goesOn) := readWithin style fuel rest
          (meant ++ others, goesOn)
  | fuel + 1, character :: rest =>
      let (others, goesOn) := readWithin style fuel rest
      (character :: others, goesOn)

def read (style : EscapeStyle) (text : Octets) : Octets × Bool :=
  style.readWithin (text.length + 1) text

end EscapeStyle

end BuiltinWrappers.Script
