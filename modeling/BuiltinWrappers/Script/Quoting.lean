import BuiltinWrappers.Text.Digits
import BuiltinWrappers.Text.Octets

/-!
# Quoting

A text is written so that a shell reads it back as one word: with backslashes, in
single or double quotes, or in dollar quotes where octets cannot be shown.
-/

namespace BuiltinWrappers.Script.Quoting

open Text (Octets)

def isShown (octet : Char) : Bool := ' ' ≤ octet && octet ≤ '~'

def octalEscape (octet : Char) : Octets :=
  let digits := Nat.toDigits 8 octet.toNat
  '\\' :: List.replicate (3 - digits.length) '0' ++ digits

def dollarOctet (octet : Char) : Octets :=
  match octet with
  | '\x07' => ['\\', 'a']
  | '\x08' => ['\\', 'b']
  | '\x1b' => ['\\', 'E']
  | '\x0c' => ['\\', 'f']
  | '\n' => ['\\', 'n']
  | '\r' => ['\\', 'r']
  | '\t' => ['\\', 't']
  | '\x0b' => ['\\', 'v']
  | '\\' | '\'' => ['\\', octet]
  | octet => if isShown octet then [octet] else octalEscape octet

def dollar (text : Octets) : Octets := '$' :: '\'' :: text.flatMap dollarOctet ++ ['\'']

def single (text : Octets) : Octets :=
  if text.all isShown then
    '\'' :: text.flatMap (fun octet =>
      if octet = '\'' then ['\'', '\\', '\'', '\''] else [octet]) ++ ['\'']
  else dollar text

def double (text : Octets) : Octets :=
  if text.all isShown then
    '"' :: text.flatMap (fun octet =>
      if ['"', '\\', '$', '\x60'].contains octet then ['\\', octet] else [octet]) ++ ['"']
  else dollar text

def shellSigns : Octets := " '\"\\|&;()<>!\x7b\x7d*[]?^$\x60,".toList

def backslashed (text : Octets) : Octets :=
  if text.isEmpty then ['\'', '\'']
  else if !text.all isShown then dollar text
  else
    let first := if text.head? = some '#' ∨ text.head? = some '~' then ['\\'] else []
    first ++ text.flatMap fun octet =>
      if shellSigns.contains octet then ['\\', octet] else [octet]

def key (text : Octets) : Octets :=
  let isPlain (octet : Char) : Bool :=
    octet.isAlphanum || "%+-./:=@_".toList.contains octet
  if text ≠ [] ∧ text.all isPlain then text else double text

example : single "it's".toList = "'it'\\''s'".toList := by decide +kernel

end BuiltinWrappers.Script.Quoting
