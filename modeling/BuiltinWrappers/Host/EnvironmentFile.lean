import BuiltinWrappers.Host
import BuiltinWrappers.Text.Alphanumeric
import BuiltinWrappers.Text.Blank
import BuiltinWrappers.Text.Scan

/-!
# Environment files

A file named `.env` in the working directory or the nearest directory above it
adds variables to the environment.  Its lines are taken in order, a variable
that is already set stays as it is, and the first bad line ends the reading
without undoing the lines before it.  A value that holds a NUL cannot be stored,
and then there is no environment to go on with.
-/

namespace BuiltinWrappers.EnvironmentFile

open Text

/-! ## Keys -/

def isKeyStart (character : Char) : Bool := character.isAlpha || character = '_'

def isKeyCharacter (character : Char) : Bool :=
  character.isAlphanum || character = '_' || character = '.'

def key? (text : List Char) : Option (List Char × List Char) :=
  if text.head?.any isKeyStart then run? isKeyCharacter text else none

def assignedKey? (text : List Char) : Option (List Char × List Char) := do
  let (key, text) ← key? text
  let text ← literal? ['='] (dropLeadingBlanks text)
  return (key, text)

def exportWord : List Char := "export".toList

def assignment? (text : List Char) : Option (List Char × List Char) :=
  assignedKey? text <|> do
    let (word, text) ← key? text
    if word = exportWord then assignedKey? (dropLeadingBlanks text) else none

/-! ## Values -/

/-- What the next character of a value belongs to. -/
inductive ValueMode where
  | plain
  | literal
  | escaped
  | name (collected : List Char)
  | braced (collected : List Char)
  | ended
  deriving DecidableEq, Repr

def escapeOf? (character : Char) : Option Char :=
  if ['\\', '\'', '"', '$', ' '].contains character then some character
  else if character = 'n' then some '\n'
  else none

/--
What a name stands for, which is nothing if it is not set.  The environment is a
list of entries such as `KEY=VALUE`, and a name stands for what follows it and
an equals sign in one of them, so a name may reach into a value.
-/
def substitute (environment : Environment) (name : List Char) : List Char :=
  let key := name.takeWhile (· ≠ '=')
  let value := (environment[String.ofList key]?.getD "").toList
  match name.drop key.length with
  | [] => value
  | _ :: front =>
      if (front ++ ['=']).isPrefixOf value then value.drop (front.length + 1) else []

/--
Read a value.  `quoted` tells whether a double quote is open.  The character
that ends a name without braces is copied as it is.
-/
def value? (environment : Environment) (quoted : Bool) :
    ValueMode → List Char → Option (List Char)
  | .plain, [] | .escaped, [] => if quoted then none else some []
  | .name collected, [] =>
      if quoted then none else some (substitute environment collected)
  | .ended, [] => some []
  | .literal, [] | .braced _, [] => none
  | .ended, character :: rest =>
      if character = ' ' ∨ character = '\t' then value? environment quoted .ended rest
      else if character = '#' then some []
      else none
  | .escaped, character :: rest => do
      return (← escapeOf? character) :: (← value? environment quoted .plain rest)
  | .literal, character :: rest =>
      if character = '\'' then value? environment quoted .plain rest
      else (value? environment quoted .literal rest).map (character :: ·)
  | .name collected, character :: rest =>
      if isAlphanumeric character then
        value? environment quoted (.name (collected ++ [character])) rest
      else if character = '\x7b' ∧ collected = [] then
        value? environment quoted (.braced []) rest
      else if character = '$' then
        (value? environment quoted (.name []) rest).map
          (substitute environment collected ++ ·)
      else
        (value? environment quoted .plain rest).map
          (substitute environment collected ++ character :: ·)
  | .braced collected, character :: rest =>
      if character = '\x7d' then
        (value? environment quoted .plain rest).map
          (substitute environment collected ++ ·)
      else value? environment quoted (.braced (collected ++ [character])) rest
  | .plain, character :: rest =>
      if character = '$' then value? environment quoted (.name []) rest
      else if character = '\\' then value? environment quoted .escaped rest
      else if character = '"' then value? environment (!quoted) .plain rest
      else if quoted then (value? environment quoted .plain rest).map (character :: ·)
      else if character = '\'' then value? environment quoted .literal rest
      else if character = ' ' ∨ character = '\t' then value? environment quoted .ended rest
      else (value? environment quoted .plain rest).map (character :: ·)

/-! ## Lines -/

inductive LineOutcome where
  | bad
  | nothing
  | assignment (key value : String)
  deriving DecidableEq, Repr

def isVoid (text : List Char) : Bool := text.head?.all (· = '#')

def readLine (environment : Environment) (line : List Char) : LineOutcome :=
  let text := dropLeadingBlanks (dropTrailingBlanks line)
  if isVoid text then .nothing
  else
    match assignment? text with
    | none => .bad
    | some (key, rest) =>
        let rest := dropLeadingBlanks rest
        if isVoid rest then .assignment (.ofList key) ""
        else
          match value? environment false .plain rest with
          | none => .bad
          | some value => .assignment (.ofList key) (.ofList value)

def setIfUnset? (environment : Environment) (key value : String) : Option Environment :=
  if environment.contains key then some environment
  else if value.toList.contains '\x00' then none
  else some (environment.insert key value)

def readLines? (environment : Environment) : List (List UInt8) → Option Environment
  | [] => some environment
  | bytes :: lines =>
      match String.fromUTF8? ⟨bytes.toArray⟩ with
      | none => some environment
      | some line =>
          match readLine environment line.toList with
          | .bad => some environment
          | .nothing => readLines? environment lines
          | .assignment key value => do
              readLines? (← setIfUnset? environment key value) lines

def read? (environment : Environment) (content : ByteArray) : Option Environment :=
  readLines? environment (content.toList.splitOn 10)

/-! ## Finding the file -/

def fileName : String := ".env"

def ancestors (location : Location) : List Location :=
  (List.range (location.length + 1)).map fun up => location.take (location.length - up)

inductive Sighting where
  | found (place : Location)
  | passed
  | stopped
  deriving DecidableEq, Repr

/--
What looking for the file in a directory comes to.  Links are followed, and only a
regular file is one.  A path that leads nowhere is passed, but not one that cannot
be looked at.
-/
def look (tree : FileTree) (directory : Location) : Sighting :=
  match tree.resolve [] (FileTree.pathTo (directory ++ [fileName])) with
  | .ok place => if (tree.node? place).any Node.isFile then .found place else .passed
  | .error .notFound => .passed
  | .error _ => .stopped

def placeIn? (tree : FileTree) : (directories : List Location) → Option Location
  | [] => none
  | directory :: above =>
      match look tree directory with
      | .found place => some place
      | .passed => placeIn? tree above
      | .stopped => none

/-- Where the nearest file stands, unless the working directory is gone. -/
def place? (host : Host) : Option Location :=
  if host.tree.isDirectory host.workingDirectory then
    placeIn? host.tree (ancestors host.workingDirectory)
  else none

def content? (host : Host) : Option ByteArray := do
  match host.tree.node? (← place? host) with
  | some (.file content _) => some content
  | _ => none

def environment? (host : Host) : Option Environment :=
  match content? host with
  | none => some host.environment
  | some content => read? host.environment content

/-! ## Examples -/

example : readLine ∅ "export KEY = \"a\\nb\" # note".toList =
    .assignment "KEY" "a\nb" := by decide +kernel

example : readLine ∅ "KEY=a b".toList = .bad := by decide +kernel

example : substitute (.ofList [("KEY", "a=b=c")]) "KEY=a".toList = "b=c".toList := by
  decide +kernel

end BuiltinWrappers.EnvironmentFile
