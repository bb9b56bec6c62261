import BuiltinWrappers.Text.Octets

/-!
# The syntax of scripts

A script is a list of items, an item a chain of pipelines, and a pipeline a row
of commands.  A word is a list of pieces, some of which are replaced by other
text when the command around them runs; a piece that is quoted is neither split
into fields nor taken for a pattern.
-/

namespace BuiltinWrappers.Script

open Text (Octets)

inductive Dialect where
  | plain
  | extended
  deriving DecidableEq, Repr

inductive Fallback where
  | use
  | assign
  | fail
  | replace
  deriving DecidableEq, Repr

inductive Scope where
  | first
  | everywhere
  | front
  | rear
  deriving DecidableEq, Repr

inductive LetterCase where
  | upper
  | lower
  deriving DecidableEq, Repr

inductive Opening where
  | read
  | write (overriding : Bool)
  | append
  | readWrite
  | duplicate
  | both (appending : Bool)
  | document
  | line
  deriving DecidableEq, Repr

inductive ArmEnd where
  | leave
  | runNext
  | tryNext
  deriving DecidableEq, Repr

mutual

inductive Piece where
  | text (octets : Octets) (quoted : Bool)
  | parameter (name : Octets) (subscript : Option (List Piece)) (change : Change)
      (quoted : Bool)
  | substitution (body : List Item) (quoted : Bool)
  | arithmetic (expression : List Piece) (quoted : Bool)
  | output (body : List Item)

inductive Change where
  | value
  | length
  | fallback (kind : Fallback) (emptyToo : Bool) (word : List Piece)
  | trim (rear longest : Bool) (pattern : List Piece)
  | substitute (scope : Scope) (pattern replacement : List Piece)
  | slice (offset : List Piece) (length : Option (List Piece))
  | letters (target : LetterCase) (everywhere : Bool) (pattern : List Piece)
  | transformed (operator : Char)
  | indirect (change : Change)
  | names (joined : Bool)

inductive Assignment where
  | one (name : Octets) (subscript : Option (List Piece)) (appending : Bool)
      (value : List Piece)
  | list (name : Octets) (appending : Bool)
      (values : List (Option (List Piece) × List Piece))

inductive Redirection where
  | mk (descriptor : Option Nat) (opening : Opening) (target : List Piece)

inductive Condition where
  | word (word : List Piece)
  | unary (operator : Octets) (word : List Piece)
  | binary (left : List Piece) (operator : Octets) (right : List Piece)
  | negation (inner : Condition)
  | both (first second : Condition)
  | either (first second : Condition)

inductive Arm where
  | mk (patterns : List (List Piece)) (body : List Item) (ending : ArmEnd)

inductive Command where
  | simple (line : Nat) (assignments : List Assignment) (words : List (List Piece))
      (redirections : List Redirection)
  | group (body : List Item)
  | subshell (body : List Item)
  | conditional (condition body otherwise : List Item)
  | loop (awaiting : Bool) (condition body : List Item)
  | each (variableName : Octets) (words : Option (List (List Piece))) (body : List Item)
  | counting (start condition step : List Piece) (body : List Item)
  | choice (subject : List Piece) (arms : List Arm)
  | definition (name : Octets) (body : Command)
  | calculation (expression : List Piece)
  | test (condition : Condition)
  | redirected (command : Command) (redirections : List Redirection)

inductive Pipeline where
  | mk (negated : Bool) (commands : List Command)

inductive Item where
  | mk (first : Pipeline) (others : List (Bool × Pipeline)) (background : Bool)

end

abbrev Word := List Piece

def Item.ofCommand (command : Command) : Item := .mk (.mk false [command]) [] false

namespace Word

def quotedText (octets : Octets) : Word := [.text octets true]

def text? : Word → Option Octets
  | [] => some []
  | .text octets _ :: pieces => (text? pieces).map (octets ++ ·)
  | _ :: _ => none

def hasQuoted (word : Word) : Bool :=
  word.any fun piece =>
    match piece with
    | .text _ quoted => quoted
    | _ => false

def join (piece : Piece) (word : Word) : Word :=
  match piece, word with
  | .text first quoted, .text second alike :: pieces =>
      if quoted = alike then .text (first ++ second) quoted :: pieces
      else .text first quoted :: .text second alike :: pieces
  | piece, word => piece :: word

end Word

/-! ## Characters of the syntax -/

def isNameStart (character : Char) : Bool := character.isAlpha || character = '_'

def isNameCharacter (character : Char) : Bool := character.isAlphanum || character = '_'

def isName (text : Octets) : Bool := text.head?.any isNameStart && text.all isNameCharacter

def isSpecialParameter (character : Char) : Bool :=
  ['@', '*', '#', '?', '-', '$', '!'].contains character

def wordEnds : List Char := [' ', '\t', '\n', ';', '&', '|', '<', '>', '(', ')']

end BuiltinWrappers.Script
