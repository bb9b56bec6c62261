/-!
# Patterns

A pattern matches a whole text.  A star stands for any run of characters, a
question mark for one character, and a bracket for one character of a set;
characters that are quoted stand for themselves.  Where groups are known, a sign
and alternatives in parentheses stand for one of them, for a number of them, or
for what none of them matches.  Parts of a text that match a pattern can be cut
off at either end.
-/

namespace BuiltinWrappers.Text

/-! ## Sets of characters -/

inductive SetMember where
  | range (low high : Char)
  | named (name : List Char)
  deriving DecidableEq, Repr

def isSpaceCharacter (character : Char) : Bool :=
  [' ', '\t', '\n', '\r', '\x0b', '\x0c'].contains character

def isGraphic (character : Char) : Bool := '!' ≤ character && character ≤ '~'

/-- The named classes, for characters of ASCII. -/
def isOfClass (name : List Char) (character : Char) : Bool :=
  match String.ofList name with
  | "alpha" => character.isAlpha
  | "digit" => character.isDigit
  | "alnum" => character.isAlphanum
  | "upper" => character.isUpper
  | "lower" => character.isLower
  | "space" => isSpaceCharacter character
  | "blank" => character = ' ' || character = '\t'
  | "punct" => isGraphic character && !character.isAlphanum
  | "graph" => isGraphic character
  | "print" => isGraphic character || character = ' '
  | "cntrl" => character < ' ' || character = '\x7f'
  | "xdigit" =>
      character.isDigit || ('a' ≤ character && character ≤ 'f') ||
        ('A' ≤ character && character ≤ 'F')
  | _ => false

def SetMember.holds (character : Char) : SetMember → Bool
  | .range low high => low ≤ character && character ≤ high
  | .named name => isOfClass name character

/-- The name of a class up to its closing sign, and what follows. -/
def className? : List Char → Option (List Char × List Char)
  | ':' :: ']' :: rest => some ([], rest)
  | character :: rest =>
      if character.isAlpha then
        (className? rest).map fun (name, rest) => (character :: name, rest)
      else none
  | [] => none

/-! ## Patterns -/

/-- A character of a pattern, which is active unless it is quoted. -/
structure Glyph where
  character : Char
  active : Bool
  deriving DecidableEq, Repr

/-- How many of the alternatives of a group stand one after the other. -/
inductive GroupKind where
  | one
  | atMostOne
  | any
  | atLeastOne
  | none
  deriving DecidableEq, Repr

inductive PatternItem where
  | anyRun
  | anyOne
  | one (character : Char)
  | set (negated : Bool) (members : List SetMember)
  | group (kind : GroupKind) (alternatives : List (List PatternItem))
  deriving Repr

abbrev Pattern := List PatternItem

namespace Pattern

/-- The member of a set in front, and what follows it. -/
def member : Glyph → List Glyph → SetMember × List Glyph
  | ⟨'[', true⟩, ⟨':', _⟩ :: after =>
      match className? (after.map Glyph.character) with
      | some (name, _) => (.named name, after.drop (name.length + 2))
      | none => (.range '[' '[', ⟨':', true⟩ :: after)
  | ⟨low, _⟩, ⟨'-', true⟩ :: high :: after =>
      if high = ⟨']', true⟩ then (.range low low, ⟨'-', true⟩ :: high :: after)
      else (.range low high.character, after)
  | ⟨character, _⟩, rest => (.range character character, rest)

/-- The members of a set up to its closing bracket, which counts as a member in front. -/
def members? : (fuel : Nat) → (first : Bool) → List Glyph →
    Option (List SetMember × List Glyph)
  | 0, _, _ | _, _, [] => none
  | fuel + 1, first, glyph :: rest =>
      if glyph = ⟨']', true⟩ ∧ !first then some ([], rest)
      else
        let (member, after) := member glyph rest
        (members? fuel false after).map fun (members, rest) => (member :: members, rest)

/-- A set after its opening bracket, if the bracket is closed. -/
def set? (glyphs : List Glyph) : Option (PatternItem × List Glyph) :=
  match glyphs with
  | ⟨'!', true⟩ :: rest | ⟨'^', true⟩ :: rest =>
      (members? glyphs.length true rest).map fun (members, rest) => (.set true members, rest)
  | _ =>
      (members? glyphs.length true glyphs).map fun (members, rest) =>
        (.set false members, rest)

def groupKind? (glyph : Glyph) : Option GroupKind :=
  match glyph with
  | ⟨'@', true⟩ => some .one
  | ⟨'?', true⟩ => some .atMostOne
  | ⟨'*', true⟩ => some .any
  | ⟨'+', true⟩ => some .atLeastOne
  | ⟨'!', true⟩ => some .none
  | _ => none

/-- The alternatives up to a closing parenthesis, and what follows it. -/
def alternatives? : (depth : Nat) → List Glyph → Option (List (List Glyph) × List Glyph)
  | _, [] => none
  | depth, glyph :: rest => do
      let extend (depth : Nat) : Option (List (List Glyph) × List Glyph) := do
        let (found, after) ← alternatives? depth rest
        match found with
        | first :: others => return ((glyph :: first) :: others, after)
        | [] => none
      if glyph = ⟨'(', true⟩ then extend (depth + 1)
      else if glyph = ⟨')', true⟩ then
        match depth with
        | 0 => return ([[]], rest)
        | depth + 1 => extend depth
      else if glyph = ⟨'|', true⟩ ∧ depth = 0 then
        let (found, after) ← alternatives? 0 rest
        return ([] :: found, after)
      else extend depth

/-- A group in front: its kind, its alternatives and what follows it. -/
def group? (glyphs : List Glyph) : Option (GroupKind × List (List Glyph) × List Glyph) :=
  match glyphs with
  | sign :: ⟨'(', true⟩ :: rest => do
      let kind ← groupKind? sign
      let (alternatives, after) ← alternatives? 0 rest
      return (kind, alternatives, after)
  | _ => none

/-- The pattern that glyphs write, given whether groups are known. -/
def ofGlyphsWithin (grouped : Bool) : (fuel : Nat) → List Glyph → Pattern
  | 0, _ | _, [] => []
  | fuel + 1, glyph :: rest =>
      let ⟨character, active⟩ := glyph
      match if grouped then group? (glyph :: rest) else none with
      | some (kind, alternatives, after) =>
          .group kind (alternatives.map (ofGlyphsWithin grouped fuel)) ::
            ofGlyphsWithin grouped fuel after
      | none =>
          if !active then .one character :: ofGlyphsWithin grouped fuel rest
          else if character = '*' then .anyRun :: ofGlyphsWithin grouped fuel rest
          else if character = '?' then .anyOne :: ofGlyphsWithin grouped fuel rest
          else if character = '[' then
            match set? rest with
            | some (item, after) => item :: ofGlyphsWithin grouped fuel after
            | none => .one character :: ofGlyphsWithin grouped fuel rest
          else .one character :: ofGlyphsWithin grouped fuel rest

def ofGlyphs (glyphs : List Glyph) : Pattern := ofGlyphsWithin false glyphs.length glyphs

def ofGroupedGlyphs (glyphs : List Glyph) : Pattern := ofGlyphsWithin true glyphs.length glyphs

/-- Whether a pattern means no more than its own characters. -/
def isPlain (pattern : Pattern) : Bool :=
  pattern.all fun item =>
    match item with
    | .one _ => true
    | _ => false

/-! ## Matching -/

def matchesOne (item : PatternItem) (character : Char) : Bool :=
  match item with
  | .anyRun | .anyOne => true
  | .one wanted => wanted = character
  | .set negated members => members.any (SetMember.holds character) != negated
  | .group _ _ => false

/-- A text and all its ends, the longest one first. -/
def ends : List Char → List (List Char)
  | [] => [[]]
  | character :: text => (character :: text) :: ends text

/-- What is left of a text after each number of steps, as far as the fuel allows. -/
def afterSteps (step : List Char → List (List Char)) :
    (fuel : Nat) → List (List Char) → List (List Char)
  | 0, texts => texts
  | fuel + 1, texts =>
      let next := ((texts.flatMap step).filter fun text => !texts.contains text).eraseDups
      if next.isEmpty then texts else afterSteps step fuel (texts ++ next)

mutual

/-- What can be left of a text in front of which an item stands. -/
def restsOfItem : PatternItem → List Char → List (List Char)
  | .anyRun, text => ends text
  | .group kind alternatives, text =>
      let step := restsOfAny alternatives
      match kind with
      | .one => step text
      | .atMostOne => (text :: step text).eraseDups
      | .any => afterSteps step (text.length + 1) [text]
      | .atLeastOne => (afterSteps step (text.length + 1) (step text)).eraseDups
      | .none => (ends text).filter fun rest => !(step text).contains rest
  | .anyOne, _ :: rest => [rest]
  | .one wanted, character :: rest => if wanted = character then [rest] else []
  | .set negated members, character :: rest =>
      if members.any (SetMember.holds character) != negated then [rest] else []
  | .anyOne, [] | .one _, [] | .set _ _, [] => []

def restsOf : List PatternItem → List Char → List (List Char)
  | [], text => [text]
  | item :: items, text => ((restsOfItem item text).flatMap (restsOf items)).eraseDups

def restsOfAny : List (List PatternItem) → List Char → List (List Char)
  | [], _ => []
  | items :: others, text => (restsOf items text ++ restsOfAny others text).eraseDups

end

def hasGroup (pattern : Pattern) : Bool :=
  pattern.any fun item =>
    match item with
    | .group _ _ => true
    | _ => false

/-- Whether some part at the end of a text is accepted. -/
def anyEnd (accepts : List Char → Bool) : List Char → Bool
  | [] => accepts []
  | character :: text => accepts (character :: text) || anyEnd accepts text

/-- Whether a pattern without groups matches a text. -/
def matchesPlainly : Pattern → List Char → Bool
  | [], text => text.isEmpty
  | .anyRun :: pattern, text => anyEnd (matchesPlainly pattern) text
  | _ :: _, [] => false
  | item :: pattern, character :: text =>
      matchesOne item character && matchesPlainly pattern text

def matchesText (pattern : Pattern) (text : List Char) : Bool :=
  if pattern.hasGroup then (restsOf pattern text).contains []
  else pattern.matchesPlainly text

/-! ## Cutting off matching ends -/

def splits (text : List Char) : List (List Char × List Char) :=
  (List.range (text.length + 1)).map text.splitAt

/-- What is left of a text without the shortest or longest front that matches. -/
def dropFront (pattern : Pattern) (longest : Bool) (text : List Char) : List Char :=
  let candidates := if longest then (splits text).reverse else splits text
  match candidates.find? fun (front, _) => pattern.matchesText front with
  | some (_, rest) => rest
  | none => text

/-- What is left of a text without the shortest or longest end that matches. -/
def dropEnd (pattern : Pattern) (longest : Bool) (text : List Char) : List Char :=
  let candidates := if longest then splits text else (splits text).reverse
  match candidates.find? fun (_, rear) => pattern.matchesText rear with
  | some (front, _) => front
  | none => text

end Pattern

def activeGlyphs (text : List Char) : List Glyph := text.map fun character => ⟨character, true⟩

/-! ## Examples -/

example : (Pattern.ofGlyphs (activeGlyphs "*.[ch]".toList)).matchesText "a.b.h".toList := by
  decide +kernel

example : (Pattern.ofGlyphs (activeGlyphs "*/".toList)).dropFront true "a/b/c".toList =
    "c".toList := by decide +kernel

example : (Pattern.ofGroupedGlyphs (activeGlyphs "!(*.h|a)+(x)".toList)).matchesText
    "b.cxx".toList := by decide +kernel

end BuiltinWrappers.Text
