import BuiltinWrappers.Text.Ranges

/-!
# Blank characters

The code points with the Unicode property White_Space, and trimming a line of
them at its ends.
-/

namespace BuiltinWrappers.Text

def blankRanges : Ranges :=
  [(0x9, 0xD), (0x20, 0x20), (0x85, 0x85), (0xA0, 0xA0), (0x1680, 0x1680), (0x2000, 0x200A),
   (0x2028, 0x2029), (0x202F, 0x202F), (0x205F, 0x205F), (0x3000, 0x3000)]

def isBlank (character : Char) : Bool := blankRanges.member character

def dropLeadingBlanks (text : List Char) : List Char := text.dropWhile isBlank

def dropTrailingBlanks (text : List Char) : List Char :=
  (text.reverse.dropWhile isBlank).reverse

end BuiltinWrappers.Text
