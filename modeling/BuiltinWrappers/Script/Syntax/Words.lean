import BuiltinWrappers.Script.Syntax.Scan

/-!
# Reading words

A word is read piece by piece up to the place where it ends, which depends on
what encloses it.  The parser of the items between the parentheses of a
substitution is given from outside.
-/

namespace BuiltinWrappers.Script

open Text (Octets)

namespace Parser

/-! ## Where words end -/

/-- What encloses a word, and so tells where it ends. -/
inductive Enclosure where
  | blanks
  | doubleQuotes
  | braces (quoted : Bool) (stops : List Char)
  | document
  | expression
  | group
  | brackets
  deriving DecidableEq, Repr

namespace Enclosure

def quotes : Enclosure → Bool
  | .doubleQuotes | .document => true
  | .braces quoted _ => quoted
  | .blanks | .expression | .group | .brackets => false

def endsAt (enclosure : Enclosure) (character : Char) : Bool :=
  match enclosure with
  | .blanks => wordEnds.contains character
  | .doubleQuotes => character = '"'
  | .braces _ stops => character = '\x7d' || stops.contains character
  | .document | .brackets => false
  | .expression => [' ', '\t', '\n'].contains character
  | .group => character = ')'

def mayEnd (enclosure : Enclosure) : Bool :=
  match enclosure with
  | .blanks | .document | .expression | .brackets => true
  | .doubleQuotes | .braces _ _ | .group => false

def covered (enclosure : Enclosure) (character : Char) : Bool :=
  ['$', '\x60', '\\'].contains character ||
    match enclosure with
    | .doubleQuotes => character = '"'
    | .braces _ _ => character = '"' || character = '\x7d'
    | _ => false

end Enclosure

/-! ## Parts of parameters -/

def parameterName? (text : Octets) : Option (Octets × Octets) :=
  match text with
  | [] => none
  | first :: rest =>
      if isNameStart first then
        some (text.takeWhile isNameCharacter, text.dropWhile isNameCharacter)
      else if first.isDigit then
        some (text.takeWhile Char.isDigit, text.dropWhile Char.isDigit)
      else if isSpecialParameter first then some ([first], rest)
      else none

def fallbackKind? : Char → Option Fallback
  | '-' => some .use
  | '=' => some .assign
  | '?' => some .fail
  | '+' => some .replace
  | _ => none

def scope (text : Octets) : Scope × Octets :=
  match text with
  | '/' :: rest => (.everywhere, rest)
  | '#' :: rest => (.front, rest)
  | '%' :: rest => (.rear, rest)
  | rest => (.first, rest)

/-! ## Pieces -/

def barePiece? (dialect : Dialect) (text : Octets) : Parser (Option Word) := do
  match text with
  | '\\' :: '\n' :: rest => set rest; return some []
  | '\\' :: character :: rest => set rest; return some [.text [character] true]
  | ['\\'] => set ([] : Octets); return some [.text ['\\'] true]
  | '\'' :: rest =>
      let body := rest.takeWhile (· ≠ '\'')
      match rest.dropWhile (· ≠ '\'') with
      | [] => throw .unfinished
      | _ :: rest => set rest; return some [.text body true]
  | '$' :: '\'' :: rest =>
      if dialect = .extended then
        match dollarQuoted? (rest.length + 1) rest with
        | none => throw .unfinished
        | some (body, rest) => set rest; return some [.text body true]
      else return none
  | '$' :: '"' :: rest =>
      if dialect = .extended then do set ('"' :: rest); return some []
      else return none
  | _ => return none

def asksLength (text : Octets) : Bool :=
  match text with
  | '#' :: '-' :: rest | '#' :: '?' :: rest => rest.head? = some '\x7d'
  | '#' :: rest => (parameterName? rest).isSome
  | _ => false

def startsOutput (dialect : Dialect) (enclosure : Enclosure) (text : Octets) : Bool :=
  dialect = .extended && enclosure = .blanks && ['<', '('].isPrefixOf text

def startsGroup (dialect : Dialect) (enclosure : Enclosure) (text : Octets) : Bool :=
  let isOpen := enclosure = .blanks || enclosure = .group
  match dialect, text with
  | .extended, sign :: '(' :: rest =>
      if sign = '!' then
        let inner := rest.takeWhile (· ≠ ')')
        isOpen && inner.length < rest.length && inner.all fun character =>
          [' ', '\t', '\n', ';', '&', '('].all (· ≠ character)
      else isOpen && ['@', '?', '*', '+'].contains sign
  | _, _ => false

def asContent : List Item → List Item
  | [.mk (.mk false [.simple line [] [] [.mk descriptor .read target]]) [] false] =>
      [.ofCommand (.simple line [] [[.text "cat".toList false]] [.mk descriptor .read target])]
  | items => items

def substitution (dialect : Dialect) (script : Parser (List Item)) (quoted : Bool) :
    Parser Word := do
  let body ← script
  modify skipLines
  expect [')']
  return [.substitution (if dialect = .extended then asContent body else body) quoted]

mutual

def pieces (dialect : Dialect) (script : Parser (List Item)) :
    (fuel : Nat) → Enclosure → Parser Word
  | 0, _ => throw .tooDeep
  | fuel + 1, enclosure => do
      let text ← get
      match text with
      | [] => if enclosure.mayEnd then return [] else throw .unfinished
      | character :: _ =>
          if enclosure.endsAt character ∧ !startsOutput dialect enclosure text then return []
          else
            let front ← piece dialect script fuel enclosure
            let others ← pieces dialect script fuel enclosure
            return front.foldr Word.join others

def piece (dialect : Dialect) (script : Parser (List Item)) :
    (fuel : Nat) → Enclosure → Parser Word
  | 0, _ => throw .tooDeep
  | fuel + 1, enclosure => do
      let quoted := enclosure.quotes
      let text ← get
      if !quoted then
        if let some word ← barePiece? dialect text then return word
      if startsOutput dialect enclosure text then
        set (text.drop 2)
        let body ← script
        modify skipLines
        expect [')']
        return [.output body]
      if startsGroup dialect enclosure text then
        set (text.drop 2)
        let inner ← pieces dialect script fuel .group
        expect [')']
        return .text (text.take 2) false :: inner ++ [.text [')'] false]
      match text with
      | '$' :: rest => set rest; dollar dialect script fuel quoted
      | '\x60' :: rest =>
          match backquoted? quoted rest with
          | none => throw .unfinished
          | some (body, rest) =>
              set rest
              return [.substitution (← onText body script) quoted]
      | '\\' :: character :: rest =>
          if character = '\n' then
            set rest
            return []
          else if enclosure.covered character then
            set rest
            return [.text [character] true]
          else
            set (character :: rest)
            return [.text ['\\'] true]
      | '"' :: rest =>
          set rest
          if enclosure = .document then return [.text ['"'] true]
          else
            let word ← pieces dialect script fuel .doubleQuotes
            expect ['"']
            return if word.isEmpty then [.text [] true] else word
      | character :: rest =>
          set rest
          return [.text [character] quoted]
      | [] => return []

def dollar (dialect : Dialect) (script : Parser (List Item)) :
    (fuel : Nat) → (quoted : Bool) → Parser Word
  | 0, _ => throw .tooDeep
  | fuel + 1, quoted => do
      match ← get with
      | '(' :: '(' :: rest =>
          match calculation? 0 rest with
          | some (body, rest) =>
              set rest
              let word ← onText body (pieces dialect script fuel .document)
              return [.arithmetic word quoted]
          | none => set ('(' :: rest); substitution dialect script quoted
      | '(' :: rest => set rest; substitution dialect script quoted
      | '\x7b' :: rest => set rest; braced dialect script fuel quoted
      | text =>
          match text, parameterName? text with
          | digit :: rest, some (name, after) =>
              if digit.isDigit then
                set rest
                return [.parameter [digit] none .value quoted]
              else
                set after
                return [.parameter name none .value quoted]
          | _, _ => return [.text ['$'] quoted]

/-- A parameter between braces, once the opening one is passed. -/
def braced (dialect : Dialect) (script : Parser (List Item)) :
    (fuel : Nat) → (quoted : Bool) → Parser Word
  | 0, _ => throw .tooDeep
  | fuel + 1, quoted => do
      let text ← get
      let measured := asksLength text
      let indirect := dialect = .extended && text.head? = some '!' &&
        (parameterName? text.tail).isSome
      if measured || indirect then set text.tail
      match parameterName? (← get) with
      | none => throw .badSubstitution
      | some (name, rest) =>
          set rest
          let subscript ← subscript? dialect script fuel
          if measured then
            expect ['\x7d']
            return [.parameter name subscript .length quoted]
          else if indirect then
            let text ← get
            let starred := ['*', '\x7d'].isPrefixOf text
            if subscript.isNone ∧ (starred ∨ ['@', '\x7d'].isPrefixOf text) then
              set (text.drop 2)
              return [.parameter name none (.names starred) quoted]
            else
              let change ← change dialect script fuel quoted
              expect ['\x7d']
              return [.parameter name subscript (.indirect change) quoted]
          else
            let change ← change dialect script fuel quoted
            expect ['\x7d']
            return [.parameter name subscript change quoted]

def subscript? (dialect : Dialect) (script : Parser (List Item)) :
    (fuel : Nat) → Parser (Option Word)
  | 0 => throw .tooDeep
  | fuel + 1 => do
      match dialect, ← get with
      | .extended, '[' :: rest =>
          match bracketed? 0 rest with
          | some (inner, rest) =>
              set rest
              return some (← onText inner (pieces dialect script fuel .brackets))
          | none => throw .unfinished
      | _, _ => return none

/-- What is done with the value of a parameter, up to the closing brace. -/
def change (dialect : Dialect) (script : Parser (List Item)) :
    (fuel : Nat) → (quoted : Bool) → Parser Change
  | 0, _ => throw .tooDeep
  | fuel + 1, quoted => do
      let word (quoted : Bool) (stops : List Char) : Parser Word :=
        pieces dialect script fuel (.braces quoted stops)
      match ← get with
      | '\x7d' :: _ => return .value
      | '%' :: '%' :: rest => set rest; return .trim true true (← word false [])
      | '%' :: rest => set rest; return .trim true false (← word false [])
      | '#' :: '#' :: rest => set rest; return .trim false true (← word false [])
      | '#' :: rest => set rest; return .trim false false (← word false [])
      | ':' :: rest =>
          match rest.head?.bind fallbackKind?, dialect with
          | some kind, _ => set rest.tail; return .fallback kind true (← word quoted [])
          | none, .plain => throw .badSubstitution
          | none, .extended =>
              set rest
              let offset ← word true [':']
              if ← accept [':'] then return .slice offset (some (← word true []))
              else return .slice offset none
      | character :: rest =>
          match fallbackKind? character, dialect, character with
          | some kind, _, _ => set rest; return .fallback kind false (← word quoted [])
          | none, .extended, '/' =>
              let (scope, rest) := scope rest
              set rest
              let pattern ← word false ['/']
              if ← accept ['/'] then return .substitute scope pattern (← word quoted [])
              else return .substitute scope pattern []
          | none, .extended, '^' =>
              set rest
              let everywhere ← accept ['^']
              return .letters .upper everywhere (← word false [])
          | none, .extended, ',' =>
              set rest
              let everywhere ← accept [',']
              return .letters .lower everywhere (← word false [])
          | none, .extended, '@' =>
              set (rest.drop 1)
              return .transformed (rest.headD ' ')
          | _, _, _ => throw .badSubstitution
      | [] => throw .unfinished

end

def word (dialect : Dialect) (script : Parser (List Item)) : Parser Word := do
  pieces dialect script (4 * (← get).length + 8) .blanks

end Parser

end BuiltinWrappers.Script
