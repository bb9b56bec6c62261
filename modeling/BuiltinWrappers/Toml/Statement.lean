import BuiltinWrappers.Text.Scan
import BuiltinWrappers.Toml.Draft
import BuiltinWrappers.Toml.Number
import BuiltinWrappers.Toml.Text

/-!
# Statements of a document

Each statement stands on lines of its own: the header of a table, the header of
one more table of an array, or a key with its value.  Arrays and inline tables
may run over several lines and hold each other to a fixed depth.
-/

namespace BuiltinWrappers.Toml

open Text

/-! ## Spaces and comments -/

def skipSpaces (text : List Char) : List Char := text.dropWhile isSpace

def skipGap? (inComment : Bool) : List Char → Option (List Char)
  | [] => some []
  | '\n' :: rest => skipGap? false rest
  | '\r' :: '\n' :: rest => skipGap? false rest
  | character :: rest =>
      if inComment then
        if isLineCharacter character then skipGap? true rest else none
      else if isSpace character then skipGap? false rest
      else if character = '#' then skipGap? true rest
      else some (character :: rest)

/-- What follows a line of which only spaces and a comment are left. -/
def endLine? (text : List Char) : Option (List Char) :=
  let text := skipSpaces text
  let text :=
    if text.head? = some '#' then text.dropWhile isLineCharacter else text
  if text.isEmpty then some [] else lineEnding? text

/-! ## Keys -/

structure DottedKey where
  path : List String
  key : String
  deriving DecidableEq, Repr

def isBareKeyCharacter (character : Char) : Bool :=
  character.isAlphanum || character = '_' || character = '-'

def simpleKey? (text : List Char) : Option (String × List Char) :=
  (run? isBareKeyCharacter text <|> lineText? text).map fun (key, rest) =>
    (.ofList key, rest)

def dottedKeys? (text : List Char) : Option (List String × List Char) :=
  match skipSpaces text with
  | '.' :: rest => do
      let (key, after) ← simpleKey? (skipSpaces rest)
      if after.length < text.length then
        let (keys, after) ← dottedKeys? after
        return (key :: keys, after)
      else none
  | _ => some ([], text)
termination_by text.length

def longestDottedKey : Nat := 80

def dottedKey? (text : List Char) : Option (DottedKey × List Char) := do
  let (first, text) ← simpleKey? text
  let (keys, text) ← dottedKeys? text
  if keys.length < longestDottedKey then
    some (⟨(first :: keys).dropLast, (first :: keys).getLastD first⟩, text)
  else none

/-! ## Values without parts -/

def scalarEnds : List Char :=
  [' ', '\t', '\n', '\r', '#', ',', '=', '[', ']', '\x7b', '\x7d']

def isScalarCharacter (character : Char) : Bool := !scalarEnds.contains character

def continuesScalar (text : List Char) : Bool :=
  (skipSpaces text).head?.any fun character =>
    isScalarCharacter character && character != '"' && character != '\''

/--
A scalar reaches over spaces to further characters of its kind, so that a date
and the time after it are read together; a quoted text starts anew.
-/
def scalarRun : List Char → List Char × List Char
  | [] => ([], [])
  | character :: rest =>
      if isScalarCharacter character || isSpace character && continuesScalar rest then
        let (run, after) := scalarRun rest
        (character :: run, after)
      else ([], character :: rest)

def scalar? (run : List Char) : Option Value :=
  if run = "true".toList then some (.boolean true)
  else if run = "false".toList then some (.boolean false)
  else
    (number? run).map .number <|> (Moment.parse? run).map .moment

/-! ## Lists between brackets -/

/--
The items up to a closing bracket, with a comma between two items and perhaps
after the last one.
-/
def items? {α : Type} (item? : List Char → Option (α × List Char)) (closing : Char)
    (text : List Char) : Option (List α × List Char) := do
  match ← skipGap? false text with
  | [] => none
  | first :: rest =>
      if first = closing then some ([], rest)
      else
        let (item, after) ← item? (first :: rest)
        match ← skipGap? false after with
        | [] => none
        | next :: after =>
            if next = closing then some ([item], after)
            else if next = ',' ∧ after.length < text.length then
              let (items, after) ← items? item? closing after
              return (item :: items, after)
            else none
termination_by text.length
decreasing_by all_goals grind

/-! ## Values -/

def deepestNesting : Nat := 80

def keyValue? (gap? : List Char → Option (List Char))
    (value? : List Char → Option (Value × List Char)) (text : List Char) :
    Option ((DottedKey × Value) × List Char) := do
  let (key, text) ← dottedKey? text
  let text ← literal? ['='] (← gap? text)
  let (value, text) ← value? (← gap? text)
  return ((key, value), text)

def plainValue? (text : List Char) : Option (Value × List Char) :=
  if text.head?.any fun first => first = '"' ∨ first = '\'' then
    (text? text).map fun (body, rest) => (.string (.ofList body), rest)
  else
    let (run, rest) := scalarRun text
    (scalar? run).map (·, rest)

def value? : (depth : Nat) → List Char → Option (Value × List Char)
  | depth + 1, '[' :: rest => do
      let (items, rest) ← items? (value? depth) ']' rest
      return (.array items, rest)
  | depth + 1, '\x7b' :: rest => do
      let (assignments, rest) ← items? (keyValue? (skipGap? false) (value? depth)) '\x7d' rest
      let table ← Draft.inlineTable? (assignments.map fun (key, value) =>
        ((key.path, key.key), value))
      return (table, rest)
  | _, text => plainValue? text

/-! ## Statements -/

inductive Statement where
  | table (name : DottedKey)
  | arrayTable (name : DottedKey)
  | assignment (key : DottedKey) (value : Value)
  deriving Repr

def statement? (text : List Char) : Option (Statement × List Char) :=
  match text with
  | '[' :: '[' :: rest => do
      let (name, rest) ← dottedKey? (skipSpaces rest)
      let rest ← literal? [']', ']'] (skipSpaces rest)
      return (.arrayTable name, ← endLine? rest)
  | '[' :: rest => do
      let (name, rest) ← dottedKey? (skipSpaces rest)
      let rest ← literal? [']'] (skipSpaces rest)
      return (.table name, ← endLine? rest)
  | text => do
      let ((key, value), rest) ←
        keyValue? (some ∘ skipSpaces) (value? deepestNesting) text
      return (.assignment key value, ← endLine? rest)

def statements? (text : List Char) : Option (List Statement) := do
  match ← skipGap? false text with
  | [] => some []
  | first :: rest =>
      let (statement, after) ← statement? (first :: rest)
      if after.length < text.length then
        return statement :: (← statements? after)
      else none
termination_by text.length

end BuiltinWrappers.Toml
