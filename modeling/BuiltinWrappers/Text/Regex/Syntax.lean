import BuiltinWrappers.Text.Digits
import BuiltinWrappers.Text.Regex

/-!
# Writing regular expressions

An expression is first cut into signs.  In the basic grammar groups, bars and
counts are written with a backslash, and in the extended grammar without one.
-/

namespace BuiltinWrappers.Text

inductive Grammar where
  | basic
  | extended
  deriving DecidableEq, Repr

namespace Regex

/-! ## Signs -/

inductive Sign where
  | opening
  | closing
  | bar
  | count (least : Nat) (most : Option Nat)
  | star
  | caret
  | dollar
  | atom (regex : Regex)
  deriving Repr

/-- The bounds of a repetition after its opening brace, and what follows them. -/
def bounds? (closing : List Char) (text : List Char) : Option (Sign × List Char) :=
  let low := text.takeWhile Char.isDigit
  let rest := text.dropWhile Char.isDigit
  let least := ofDigits 10 low
  if low ≠ [] ∧ closing.isPrefixOf rest then
    some (.count least (some least), rest.drop closing.length)
  else
    match rest with
    | ',' :: rest =>
        let high := rest.takeWhile Char.isDigit
        let rest := rest.dropWhile Char.isDigit
        let most := if high = [] then none else some (ofDigits 10 high)
        if closing.isPrefixOf rest then some (.count least most, rest.drop closing.length)
        else none
    | _ => none

def wordMembers : List SetMember := [.named "alnum".toList, .range '_' '_']

def spaceMembers : List SetMember := [.named "space".toList]

/-- What a backslash makes of a character in both grammars. -/
def escaped (character : Char) : Regex :=
  match character with
  | '<' => .wordStart
  | '>' => .wordEnd
  | 'b' => .wordEdge true
  | 'B' => .wordEdge false
  | 'w' => .set false wordMembers
  | 'W' => .set true wordMembers
  | 's' => .set false spaceMembers
  | 'S' => .set true spaceMembers
  | '\x60' => .textStart
  | '\'' => .textEnd
  | character =>
      if character.isDigit ∧ character ≠ '0' then .again (ofDigits 10 [character])
      else .one character

/-- A set after its opening bracket, and what follows its closing one. -/
def set? (text : List Char) : Option (Regex × List Char) :=
  let (negated, body) :=
    match text with
    | '^' :: body => (true, body)
    | body => (false, body)
  (Pattern.members? (body.length + 1) true (activeGlyphs body)).map fun (members, rest) =>
    (.set negated members, rest.map Glyph.character)

def sign? (grammar : Grammar) : List Char → Option (Sign × List Char)
  | [] => none
  | '\\' :: character :: rest =>
      match grammar, character with
      | .basic, '(' => some (.opening, rest)
      | .basic, ')' => some (.closing, rest)
      | .basic, '|' => some (.bar, rest)
      | .basic, '+' => some (.count 1 none, rest)
      | .basic, '?' => some (.count 0 (some 1), rest)
      | .basic, '{' => bounds? ['\\', '\x7d'] rest
      | _, character => some (.atom (escaped character), rest)
  | ['\\'] => none
  | '[' :: rest => (set? rest).map fun (regex, rest) => (.atom regex, rest)
  | '.' :: rest => some (.atom .anyOne, rest)
  | '*' :: rest => some (.star, rest)
  | '^' :: rest => some (.caret, rest)
  | '$' :: rest => some (.dollar, rest)
  | character :: rest =>
      match grammar, character with
      | .extended, '(' => some (.opening, rest)
      | .extended, ')' => some (.closing, rest)
      | .extended, '|' => some (.bar, rest)
      | .extended, '+' => some (.count 1 none, rest)
      | .extended, '?' => some (.count 0 (some 1), rest)
      | .extended, '\x7b' =>
          bounds? ['\x7d'] rest <|> some (.atom (.one character), rest)
      | _, character => some (.atom (.one character), rest)

def signs? (grammar : Grammar) : (fuel : Nat) → List Char → Option (List Sign)
  | _, [] => some []
  | 0, _ => none
  | fuel + 1, text => do
      let (sign, rest) ← sign? grammar text
      return sign :: (← signs? grammar fuel rest)

/-! ## Expressions -/

/-- What is read so far: an expression, the signs behind it, and the number of groups. -/
structure Reading where
  regex : Regex
  signs : List Sign
  groups : Nat

/-- Whether a caret or a star stands where an expression begins. -/
def endsHere (signs : List Sign) : Bool :=
  match signs with
  | [] | .closing :: _ | .bar :: _ => true
  | _ => false

def repeated (regex : Regex) : List Sign → Regex × List Sign
  | .star :: signs => repeated (.repetition regex 0 none) signs
  | .count least most :: signs => repeated (.repetition regex least most) signs
  | signs => (regex, signs)

mutual

def choices? (grammar : Grammar) :
    (fuel : Nat) → (groups : Nat) → List Sign → Option Reading
  | 0, _, _ => none
  | fuel + 1, groups, signs => do
      let first ← chain? grammar fuel true groups signs
      match first.signs with
      | .bar :: signs =>
          let second ← choices? grammar fuel first.groups signs
          return { second with regex := .either first.regex second.regex }
      | _ => return first

/-- The parts up to a bar, a closing sign or the end; `front` tells whether none came yet. -/
def chain? (grammar : Grammar) :
    (fuel : Nat) → (front : Bool) → (groups : Nat) → List Sign → Option Reading
  | 0, _, _, _ => none
  | fuel + 1, front, groups, signs =>
      match signs with
      | [] | .closing :: _ | .bar :: _ => some ⟨.empty, signs, groups⟩
      | .caret :: rest =>
          if front ∨ grammar = .extended then
            (chain? grammar fuel true groups rest).map fun reading =>
              { reading with regex := .sequence .textStart reading.regex }
          else followed? grammar fuel ⟨.one '^', rest, groups⟩
      | .dollar :: rest =>
          if endsHere rest ∨ grammar = .extended then
            followed? grammar fuel ⟨.textEnd, rest, groups⟩
          else followed? grammar fuel ⟨.one '$', rest, groups⟩
      | .star :: rest =>
          if front then followed? grammar fuel ⟨.one '*', rest, groups⟩ else none
      | .count _ _ :: rest => if front then chain? grammar fuel front groups rest else none
      | .opening :: rest => do
          let inner ← choices? grammar fuel (groups + 1) rest
          match inner.signs with
          | .closing :: rest =>
              followed? grammar fuel
                { inner with regex := .group (groups + 1) inner.regex, signs := rest }
          | _ => none
      | .atom regex :: rest => followed? grammar fuel ⟨regex, rest, groups⟩

/-- A part with its repetitions, and the parts after it. -/
def followed? (grammar : Grammar) : (fuel : Nat) → Reading → Option Reading
  | 0, _ => none
  | fuel + 1, part => do
      let (regex, signs) := repeated part.regex part.signs
      let rest ← chain? grammar fuel false part.groups signs
      return { rest with regex := .sequence regex rest.regex }

end

def parse? (grammar : Grammar) (text : List Char) : Option Regex := do
  let signs ← signs? grammar text.length text
  let reading ← choices? grammar (3 * signs.length + 3) 0 signs
  if reading.signs.isEmpty then some reading.regex else none

/-! ## Examples -/

def foundIn (grammar : Grammar) (expression text : String) : Option (List Char) := do
  let regex ← parse? grammar expression.toList
  let found ← regex.search false { rest := text.toList }
  return (text.toList.drop found.start).take found.length

example : foundIn .basic "a\\(b*\\)c" "xxabbbcd" = some "abbbc".toList := by decide +kernel

example : foundIn .extended "(a|ab)(c|bcd)" "abcd" = some "abcd".toList := by decide +kernel

example : foundIn .basic "^*a$" "*a" = some "*a".toList := by decide +kernel

end Regex

end BuiltinWrappers.Text
