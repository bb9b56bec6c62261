/-!
# Lines of a text

A line ends at a line feed, and one carriage return right before that line feed
belongs to the ending.  What follows the last line feed is a line of its own
unless it is empty, and keeps a carriage return at its end.
-/

namespace BuiltinWrappers.Text

def dropCarriageReturn (line : List Char) : List Char :=
  if line.getLast? = some '\r' then line.dropLast else line

/-- The lines among the pieces that the line feeds of a text cut it into. -/
def finishedLines : List (List Char) → List (List Char)
  | [] => []
  | [last] => if last.isEmpty then [] else [last]
  | piece :: next :: pieces => dropCarriageReturn piece :: finishedLines (next :: pieces)

def lines (text : List Char) : List (List Char) :=
  finishedLines (text.splitOn '\n')

/-! ## Examples -/

example : lines "a\r\nb\n\nc\r".toList =
    [['a'], ['b'], [], ['c', '\r']] := by decide

example : lines "a\r\r\n".toList = [['a', '\r']] := by decide

end BuiltinWrappers.Text
