import BuiltinWrappers.Text.Pattern

/-!
# Regular expressions

An expression is searched for in a text.  The match that begins first counts,
and of those that begin there the longest one; within it each part takes as much
as it can, from left to right.  The texts of the groups are kept.
-/

namespace BuiltinWrappers.Text

inductive Regex where
  | empty
  | one (character : Char)
  | anyOne
  | set (negated : Bool) (members : List SetMember)
  | textStart
  | textEnd
  | wordStart
  | wordEnd
  | wordEdge (wanted : Bool)
  | group (index : Nat) (inner : Regex)
  | again (index : Nat)
  | sequence (first second : Regex)
  | either (first second : Regex)
  | repetition (inner : Regex) (least : Nat) (most : Option Nat)
  deriving Repr

/-! ## Places in a text -/

/-- A place in a text, with the texts of the groups that were passed on the way. -/
structure Place where
  position : Nat := 0
  previous : Option Char := none
  rest : List Char
  groups : List (Nat × List Char) := []
  deriving Repr

namespace Place

def next? (place : Place) : Option (Char × Place) :=
  match place.rest with
  | [] => none
  | character :: rest =>
      some (character, { place with
        position := place.position + 1, previous := some character, rest })

/-- Put a place among others, the furthest first, unless one with its position is there. -/
def insert (place : Place) : List Place → List Place
  | [] => [place]
  | other :: places =>
      if other.position < place.position then place :: other :: places
      else if other.position = place.position then other :: places
      else other :: insert place places

def merge (places : List Place) : List Place :=
  places.foldl (fun merged place => place.insert merged) []

def keepGroup (start : Place) (index : Nat) (stop : Place) : Place :=
  let text := start.rest.take (stop.position - start.position)
  { stop with groups := (index, text) :: stop.groups.filter (·.1 ≠ index) }

def isWordCharacter (character : Char) : Bool :=
  character.isAlphanum || character = '_'

def afterWord (place : Place) : Bool := place.previous.any isWordCharacter

def beforeWord (place : Place) : Bool := place.rest.head?.any isWordCharacter

/-- Go on by a text that stands here, up to the case of its letters if that is ignored. -/
def pass (ignoreCase : Bool) : List Char → Place → List Place
  | [], place => [place]
  | wanted :: text, place =>
      match place.next? with
      | none => []
      | some (character, next) =>
          if character = wanted ∨ (ignoreCase ∧ character.toLower = wanted.toLower) then
            pass ignoreCase text next
          else []

end Place

/-! ## Matching -/

namespace Regex

/-- Take a step up to so many times, as long as it leads to new positions. -/
def closure (step : Place → List Place) : Nat → (seen frontier : List Place) → List Place
  | 0, seen, _ => seen
  | fuel + 1, seen, frontier =>
      let reached := Place.merge (frontier.flatMap step)
      let fresh := reached.filter fun place =>
        !seen.any fun other => other.position = place.position
      if fresh.isEmpty then seen
      else closure step fuel (fresh.foldl (fun seen place => place.insert seen) seen) fresh

def times (step : Place → List Place) : Nat → List Place → List Place
  | 0, places => places
  | count + 1, places => times step count (Place.merge (places.flatMap step))

def holdsIn (ignoreCase negated : Bool) (members : List SetMember) (character : Char) : Bool :=
  let isMember (character : Char) := members.any (SetMember.holds character)
  (isMember character ||
    (ignoreCase && (isMember character.toLower || isMember character.toUpper))) != negated

def whenever (condition : Bool) (place : Place) : List Place :=
  if condition then [place] else []

/-- The places where a match that begins at a place can end, the furthest first. -/
def ends (ignoreCase : Bool) : Regex → Place → List Place
  | .empty, place => [place]
  | .one character, place => place.pass ignoreCase [character]
  | .anyOne, place => place.next?.toList.map Prod.snd
  | .set negated members, place =>
      match place.next? with
      | some (character, next) =>
          whenever (holdsIn ignoreCase negated members character) next
      | none => []
  | .textStart, place => whenever (place.position = 0) place
  | .textEnd, place => whenever place.rest.isEmpty place
  | .wordStart, place => whenever (!place.afterWord && place.beforeWord) place
  | .wordEnd, place => whenever (place.afterWord && !place.beforeWord) place
  | .wordEdge wanted, place =>
      whenever ((place.afterWord != place.beforeWord) == wanted) place
  | .group index inner, place =>
      (ends ignoreCase inner place).map (place.keepGroup index)
  | .again index, place =>
      match place.groups.lookup index with
      | some text => place.pass ignoreCase text
      | none => []
  | .sequence first second, place =>
      Place.merge ((ends ignoreCase first place).flatMap (ends ignoreCase second))
  | .either first second, place =>
      Place.merge (ends ignoreCase first place ++ ends ignoreCase second place)
  | .repetition inner least most, place =>
      let step := ends ignoreCase inner
      let start := times step least [place]
      let further := (most.map (· - least)).getD place.rest.length
      closure step further start start

/-! ## Searching -/

structure Found where
  start : Nat
  stop : Place
  deriving Repr

def Found.length (found : Found) : Nat := found.stop.position - found.start

/-- The first match at or after a place, which has at most so many characters behind it. -/
def searchWithin (regex : Regex) (ignoreCase : Bool) : Nat → Place → Option Found
  | fuel, place =>
      match ends ignoreCase regex place with
      | stop :: _ => some ⟨place.position, stop⟩
      | [] =>
          match fuel, place.next? with
          | fuel + 1, some (_, next) => searchWithin regex ignoreCase fuel next
          | _, _ => none

def search (regex : Regex) (ignoreCase : Bool) (place : Place) : Option Found :=
  regex.searchWithin ignoreCase place.rest.length place

def occursIn (regex : Regex) (ignoreCase : Bool) (text : List Char) : Bool :=
  (regex.search ignoreCase { rest := text }).isSome

/-- A text taken literally. -/
def literal : List Char → Regex
  | [] => .empty
  | character :: text => .sequence (.one character) (literal text)

end Regex

end BuiltinWrappers.Text
