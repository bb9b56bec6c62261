import BuiltinWrappers.Text.Printable

/-!
# Quoted text

Messages show a piece of text between double quotes.  The quote, the backslash
and four controls have short escapes; any other character that is not visible by
itself is written by its code point in hexadecimal.
-/

namespace BuiltinWrappers.Text

def codePointEscape (character : Char) : List Char :=
  '\\' :: 'u' :: '\x7b' :: Nat.toDigits 16 character.toNat ++ ['\x7d']

def quotedCharacter (character : Char) : List Char :=
  if character = '"' then ['\\', '"']
  else if character = '\\' then ['\\', '\\']
  else if character = '\n' then ['\\', 'n']
  else if character = '\r' then ['\\', 'r']
  else if character = '\t' then ['\\', 't']
  else if character = '\x00' then ['\\', '0']
  else if isVisible character then [character]
  else codePointEscape character

def quoted (text : String) : String :=
  String.ofList ('"' :: text.toList.flatMap quotedCharacter ++ ['"'])

/-! ## Examples -/

example : quoted "a\"b\\c" = "\"a\\\"b\\\\c\"" := by decide

example : quoted "é\t\x7f" = "\"é\\t\\u\x7b7f\x7d\"" := by decide

example : quoted "a\u0301" = "\"a\\u\x7b301\x7d\"" := by decide

end BuiltinWrappers.Text
