import BuiltinWrappers.Script.Indented.Pattern.Syntax

/-!
# Matching patterns

A part of a pattern is matched together with what must follow it: the first choice
with which all the rest fits is taken.
-/

namespace BuiltinWrappers.Script.Indented

namespace Pattern

/-! ## Single characters -/

def CharacterKind.holds (kind : CharacterKind) (isAscii : Bool) (character : Char) : Bool :=
  if isAscii ∧ 127 < character.toNat then false
  else
    match kind with
    | .digit => character.isDigit
    | .word => character = '_' || Text.isAlphanumeric character
    | .space => Text.isBlank character

def Item.holds (isAscii : Bool) (character : Char) : Item → Bool
  | .range first last => first ≤ character && character ≤ last
  | .named kind negated => kind.holds isAscii character != negated

def otherCases (character : Char) : List Char :=
  Text.toSmall character :: (match Text.toCapital character with
    | [capital] => [capital]
    | _ => [])

def Single.holds (single : Single) (flags : Flags) (character : Char) : Bool :=
  match single with
  | .one wanted =>
      character = wanted ||
        (flags.ignoresCase && Text.toSmall character = Text.toSmall wanted)
  | .any => flags.dotIsAll || character ≠ '\n'
  | .set negated items =>
      let isIn (character : Char) : Bool := items.any (·.holds flags.isAscii character)
      (isIn character || (flags.ignoresCase && (otherCases character).any isIn)) != negated

/-! ## States -/

structure Ground where
  text : Array Char
  stop : Nat

structure State where
  position : Nat
  groups : List (Nat × Nat × Nat) := []

def Ground.at? (ground : Ground) (position : Nat) : Option Char :=
  if position < ground.stop then ground.text[position]? else none

def isWordAt (ground : Ground) (flags : Flags) (position : Nat) : Bool :=
  (ground.at? position).any (CharacterKind.word.holds flags.isAscii)

def Anchor.holds (anchor : Anchor) (ground : Ground) (flags : Flags) (position : Nat) : Bool :=
  let before : Option Char := if position = 0 then none else ground.at? (position - 1)
  match anchor with
  | .textStart => position = 0
  | .textEnd => position = ground.stop
  | .lineStart => position = 0 || (flags.byLine && before = some '\n')
  | .lineEnd =>
      position = ground.stop ||
        (ground.at? position = some '\n' && (flags.byLine || position + 1 = ground.stop))
  | .edge wanted =>
      let isAfter := position ≠ 0 && isWordAt ground flags (position - 1)
      (isAfter != isWordAt ground flags position) == wanted

/-! ## Matching -/

abbrev Continuation := State → Option State

def run (ground : Ground) (holds : Char → Bool) : (most : Nat) → (position : Nat) → Nat
  | 0, _ => 0
  | most + 1, position =>
      if (ground.at? position).any holds then 1 + run ground holds most (position + 1) else 0

def fromMost (go : Continuation) (state : State) (least : Nat) : (count : Nat) → Option State
  | 0 => if least = 0 then go state else none
  | count + 1 =>
      if count + 1 < least then none
      else
        match go { state with position := state.position + count + 1 } with
        | some found => some found
        | none => fromMost go state least count

def fromLeast (go : Continuation) (state : State) (count : Nat) : (more : Nat) → Option State
  | 0 => go { state with position := state.position + count }
  | more + 1 =>
      match go { state with position := state.position + count } with
      | some found => some found
      | none => fromLeast go state (count + 1) more

def sameText (ground : Ground) (ignoresCase : Bool) (start position : Nat) : (size : Nat) → Bool
  | 0 => true
  | size + 1 =>
      match ground.at? (start + size), ground.at? (position + size) with
      | some one, some other =>
          (one = other || (ignoresCase && Text.toSmall one = Text.toSmall other)) &&
            sameText ground ignoresCase start position size
      | _, _ => false

/-- Match a part of a pattern at a place, and then go on. -/
def matchNode (ground : Ground) : (fuel : Nat) → Node → State → Continuation → Option State
  | 0, _, _, _ => none
  | fuel + 1, node, state, go =>
      match node with
      | .empty => go state
      | .never => none
      | .single single flags =>
          if (ground.at? state.position).any (single.holds flags) then
            go { state with position := state.position + 1 }
          else none
      | .anchor anchor flags =>
          if anchor.holds ground flags state.position then go state else none
      | .group number inner =>
          matchNode ground fuel inner state fun after =>
            go { after with
              groups := (number, state.position, after.position) ::
                after.groups.filter (·.1 ≠ number) }
      | .again number flags =>
          match state.groups.lookup number with
          | none => none
          | some (start, stop) =>
              let size := stop - start
              if sameText ground flags.ignoresCase start state.position size then
                go { state with position := state.position + size }
              else none
      | .both first second =>
          matchNode ground fuel first state fun after => matchNode ground fuel second after go
      | .either first second =>
          match matchNode ground fuel first state go with
          | some found => some found
          | none => matchNode ground fuel second state go
      | .repeated least most greedy (.single single flags) =>
          let bound := most.getD (ground.stop - state.position)
          let count := run ground (single.holds flags) bound state.position
          if count < least then none
          else if greedy then fromMost go state least count
          else fromLeast go state least (count - least)
      | .repeated least most greedy inner =>
          let again : Continuation := fun after =>
            if after.position = state.position ∧ least = 0 then go after
            else
              matchNode ground fuel
                (.repeated (least - 1) (most.map (· - 1)) greedy inner) after go
          if most = some 0 then go state
          else if 0 < least then matchNode ground fuel inner state again
          else if greedy then
            match matchNode ground fuel inner state again with
            | some found => some found
            | none => go state
          else
            match go state with
            | some found => some found
            | none => matchNode ground fuel inner state again
      | .ahead wanted inner =>
          match matchNode ground fuel inner state some, wanted with
          | some after, true => go { after with position := state.position }
          | none, false => go state
          | _, _ => none
      | .behind wanted width inner =>
          let found :=
            if state.position < width then none
            else
              matchNode ground fuel inner { state with position := state.position - width }
                fun after => if after.position = state.position then some after else none
          match found, wanted with
          | some after, true => go { after with position := state.position }
          | none, false => go state
          | _, _ => none
      | .whole inner =>
          match matchNode ground fuel inner state some with
          | some after => go after
          | none => none
      | .conditional number first second =>
          let chosen := if (state.groups.lookup number).isSome then first else second
          matchNode ground fuel chosen state go

/-! ## Searching -/

def fuelFor (ground : Ground) : Nat := 8 * ground.stop + 100000

def matchAt (whole : Whole) (ground : Ground) (start : Nat) (isDone : State → Bool) :
    Option State :=
  matchNode ground (fuelFor ground) whole.node { position := start } fun state =>
    if isDone state then some state else none

def search (whole : Whole) (ground : Ground) (mustAdvance : Bool) :
    (count : Nat) → (start : Nat) → Option (Nat × State)
  | 0, _ => none
  | count + 1, start =>
      match matchAt whole ground start fun state => !mustAdvance || state.position ≠ start with
      | some state => some (start, state)
      | none => search whole ground false count (start + 1)

def all (whole : Whole) (ground : Ground) :
    (fuel : Nat) → (mustAdvance : Bool) → (start : Nat) → List (Nat × State)
  | 0, _, _ => []
  | fuel + 1, mustAdvance, start =>
      match search whole ground mustAdvance (ground.stop + 1 - start) start with
      | none => []
      | some (found, state) =>
          (found, state) :: all whole ground fuel (state.position = found) state.position

/-! ## Examples -/

def firstMatch (pattern text : String) : Option (Nat × Nat) :=
  match read {} pattern.toList with
  | .error _ => none
  | .ok whole =>
      let ground : Ground := { text := text.toList.toArray, stop := text.length }
      (search whole ground false (ground.stop + 1) 0).map fun (start, state) =>
        (start, state.position)

example : firstMatch "(a|b)+?c" "xababc" = some (1, 6) := by decide +kernel

example : firstMatch "(?<=x)a*" "bxaa" = some (2, 4) := by decide +kernel

end Pattern

end BuiltinWrappers.Script.Indented
