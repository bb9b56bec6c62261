import BuiltinWrappers.Script.Syntax
import BuiltinWrappers.Text.Digits

/-!
# Alternatives between braces

In the extended language a word may list alternatives between braces, or the
first and last of a row, and stands for one word with each of them.  Braces that
hold neither stand for themselves.
-/

namespace BuiltinWrappers.Script

open Text (Octets)

/-! ## Elements of a word -/

inductive Element where
  | sign (character : Char)
  | whole (piece : Piece)

namespace Element

def ofPiece : Piece → List Element
  | .text octets false => octets.map .sign
  | piece => [.whole piece]

def toPiece : Element → Piece
  | .sign character => .text [character] false
  | .whole piece => piece

def ofWord (word : Word) : List Element := word.flatMap ofPiece

def toWord (elements : List Element) : Word := (elements.map toPiece).foldr Word.join []

def sign? : Element → Option Char
  | .sign character => some character
  | .whole _ => none

def isSign (wanted : Char) (element : Element) : Bool := element.sign? = some wanted

/-! ## Bodies of braces -/

/--
The alternatives between braces and what follows the closing one.  `current` holds
what is read of the last alternative, in reverse.
-/
def alternatives? : (depth : Nat) → (current : List Element) → List Element →
    Option (List (List Element) × List Element)
  | _, _, [] => none
  | depth, current, element :: rest =>
      if element.isSign '\x7d' then
        match depth with
        | 0 => some ([current.reverse], rest)
        | depth + 1 => alternatives? depth (element :: current) rest
      else if element.isSign '\x7b' then alternatives? (depth + 1) (element :: current) rest
      else if element.isSign ',' ∧ depth = 0 then
        (alternatives? 0 [] rest).map fun (others, rest) => (current.reverse :: others, rest)
      else alternatives? depth (element :: current) rest

def row (first last : Int) (step : Nat) : List Int :=
  let step := max step 1
  let count := (last - first).natAbs / step
  let sign : Int := if first ≤ last then 1 else -1
  (List.range (count + 1)).map fun index => first + sign * (index * step : Nat)

def ofText (text : Octets) : List Element := text.map .sign

def isPadded (text : Octets) : Bool :=
  let digits := if text.head? = some '-' then text.tail else text
  digits.head? = some '0' && 1 < digits.length

def padded (width : Nat) (value : Int) : Octets :=
  let text := Text.integerText value
  let zeros := List.replicate (width - text.length) '0'
  match text with
  | '-' :: digits => '-' :: (zeros ++ digits)
  | digits => zeros ++ digits

def row? (body : List Element) : Option (List (List Element)) := do
  let text ← body.mapM sign?
  let (first, last, step) ←
    match (String.ofList text).splitOn ".." with
    | [first, last] => some (first.toList, last.toList, 1)
    | [first, last, step] => some (first.toList, last.toList, (← Text.integer? step.toList).natAbs)
    | _ => none
  match Text.integer? first, Text.integer? last, first, last with
  | some low, some high, _, _ =>
      let width := if isPadded first ∨ isPadded last then max first.length last.length else 0
      some ((row low high step).map fun value => ofText (padded width value))
  | _, _, [low], [high] =>
      if low.isAlpha ∧ high.isAlpha then
        some ((row low.toNat high.toNat step).map fun code => [.sign (Char.ofNat code.toNat)])
      else none
  | _, _, _, _ => none

/-! ## Words -/

def expand : (fuel : Nat) → List Element → List (List Element)
  | 0, elements => [elements]
  | _, [] => [[]]
  | fuel + 1, element :: rest =>
      let plain := (expand fuel rest).map (element :: ·)
      if element.isSign '\x7b' then
        match alternatives? 0 [] rest with
        | some ([only], after) =>
            match row? only with
            | some options =>
                let ends := expand fuel after
                options.flatMap fun option => ends.map (option ++ ·)
            | none => plain
        | some (options, after) =>
            let ends := expand fuel after
            (options.flatMap (expand fuel)).flatMap fun option => ends.map (option ++ ·)
        | none => plain
      else plain

end Element

def Word.alternatives (word : Word) : List Word :=
  let elements := Element.ofWord word
  if elements.any (Element.isSign '\x7b') then
    (Element.expand (elements.length + 1) elements).map Element.toWord
  else [word]

end BuiltinWrappers.Script
