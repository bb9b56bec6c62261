import BuiltinWrappers.Script.Indented.Routine
import BuiltinWrappers.Script.Utility.Digest
import BuiltinWrappers.Text.Quoted

/-!
# Digests and quotations of contents

What the libraries for digests, archives and records would take too long to work out
for themselves.
-/

namespace BuiltinWrappers.Script.Indented

open Text (Octets)

variable [Evaluator]

namespace Native.Contents

def digest? (name : String) : Option (List UInt8 → List UInt8) :=
  match name with
  | "md5" => some Digest.short
  | "sha1" => some Digest.middle
  | "sha224" => some Digest.shortened
  | "sha256" => some Digest.long
  | "sha384" => some Digest.wideShortened
  | "sha512" => some Digest.wide
  | _ => none

def octetsOf (value : Value) : Eval Octets := do
  match ← Protocol.octetsOf? (← Kinds.core value) with
  | some octets => return octets
  | none =>
      Eval.typeFault ("a bytes-like object is required, not '" ++ (← Kinds.nameOf value) ++ "'")

def escapedUnit (unit : Nat) : List Char := '\\' :: 'u' :: Protocol.hexadecimal 4 unit

def quotedCharacter (isPlain : Bool) (character : Char) : List Char :=
  let code := character.toNat
  match character with
  | '"' => ['\\', '"']
  | '\\' => ['\\', '\\']
  | '\n' => ['\\', 'n']
  | '\r' => ['\\', 'r']
  | '\t' => ['\\', 't']
  | '\x08' => ['\\', 'b']
  | '\x0c' => ['\\', 'f']
  | character =>
      if code < 32 then escapedUnit code
      else if code < 127 then [character]
      else
        match Coding.strayOctet? character, isPlain with
        | some octet, true => escapedUnit (0xdc00 + octet.toNat)
        | none, true =>
            if code < 65536 then escapedUnit code
            else
              escapedUnit (0xd800 + (code - 65536) / 1024) ++
                escapedUnit (0xdc00 + (code - 65536) % 1024)
        | _, false => [character]

def names : List String := ["digest", "remainder", "quoted"]

def call (name : String) (arguments : Arguments) : Eval Value := do
  match name with
  | "digest" =>
      let content ← octetsOf (← arguments.value 1 "data")
      match digest? (← arguments.text 0 "name" "") with
      | some digest => return .bytes ((digest (octetBytes content)).map Octets.ofByte)
      | none => return .nothing
  | "remainder" =>
      let content ← octetsOf (← arguments.value 0 "data")
      let start := UInt32.ofNat (← arguments.integer 1 "start" 0).toNat
      return .ofNat (Digest.turnedCheck start (octetBytes content)).toNat
  | _ =>
      let text ← Protocol.needText (← arguments.value 0 "text")
      let isPlain ← arguments.truth 1 "isPlain" true
      return .text ('"' :: text.flatMap (quotedCharacter isPlain) ++ ['"'])

end Native.Contents

end BuiltinWrappers.Script.Indented
