/-!
# Octets

Scripts work on bytes.  A text of octets is a list of characters, each of which
stands for the byte with its code, so bytes can be compared with and matched
against plain characters.
-/

namespace BuiltinWrappers.Text

abbrev Octets := List Char

namespace Octets

def ofByte (byte : UInt8) : Char := Char.ofNat byte.toNat

def toByte (octet : Char) : UInt8 := UInt8.ofNat octet.toNat

def ofBytes (bytes : ByteArray) : Octets := bytes.data.toList.map ofByte

def toBytes (octets : Octets) : ByteArray := ⟨(octets.map toByte).toArray⟩

def ofString (text : String) : Octets := ofBytes text.toUTF8

/-- The character that stands for bytes which are no text. -/
def replacement : Char := '\ufffd'

/-- The text that the octets encode, in which each byte of an ill-formed one is replaced. -/
def toString (octets : Octets) : String :=
  match String.fromUTF8? (toBytes octets) with
  | some text => text
  | none =>
      .ofList (octets.map fun octet => if octet.toNat < 128 then octet else replacement)

end Octets

end BuiltinWrappers.Text
