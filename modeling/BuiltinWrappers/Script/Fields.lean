import BuiltinWrappers.Host.FileTree
import BuiltinWrappers.Script.Syntax
import BuiltinWrappers.Text.Pattern

/-!
# Fields

The text that a word stands for is cut into fields where separators stand in the
parts that were replaced, and a field that is a pattern stands for the paths that
match it.
-/

namespace BuiltinWrappers.Script

open Text (Octets Glyph Pattern)

/-! ## Atoms -/

inductive Atom where
  | octet (character : Char) (quoted fresh : Bool)
  | void
  | boundary
  deriving DecidableEq, Repr

namespace Atom

def ofText (quoted fresh : Bool) (text : Octets) : List Atom :=
  if text.isEmpty ∧ quoted then [.void]
  else text.map fun character => .octet character quoted fresh

def freshen : Atom → Atom
  | .octet character false _ => .octet character false true
  | atom => atom

def glyphs (atoms : List Atom) : List Glyph :=
  atoms.filterMap fun atom =>
    match atom with
    | .octet character quoted _ => some ⟨character, !quoted⟩
    | .void => none
    | .boundary => some ⟨' ', false⟩

def text (atoms : List Atom) : Octets := (glyphs atoms).map Glyph.character

end Atom

abbrev Field := List Glyph

namespace Field

def text (field : Field) : Octets := field.map Glyph.character

end Field

/-! ## Cutting into fields -/

inductive Gap where
  | none
  | blank
  deriving DecidableEq, Repr

structure Cutting where
  fields : List Field := []
  current : List Glyph := []
  started : Bool := false
  gap : Gap := .none

namespace Cutting

def close (cutting : Cutting) (gap : Gap) : Cutting :=
  { fields := cutting.current.reverse :: cutting.fields, gap }

def isBlank (character : Char) : Bool :=
  character = ' ' || character = '\t' || character = '\n'

/-- Blanks around a separator belong to it; two other separators bound an empty field. -/
def step (separators : List Char) (cutting : Cutting) : Atom → Cutting
  | .void => { cutting with started := true }
  | .boundary => if cutting.started then cutting.close .none else { cutting with gap := .none }
  | .octet character quoted fresh =>
      if fresh ∧ !quoted ∧ separators.contains character then
        if isBlank character then if cutting.started then cutting.close .blank else cutting
        else if cutting.started then cutting.close .none
        else
          match cutting.gap with
          | .blank => { cutting with gap := .none }
          | .none => cutting.close .none
      else
        { cutting with current := ⟨character, !quoted⟩ :: cutting.current, started := true }

end Cutting

def fieldsOf (separators : List Char) (atoms : List Atom) : List Field :=
  let cutting := atoms.foldl (Cutting.step separators) {}
  (if cutting.started then (cutting.close .none).fields else cutting.fields).reverse

/-! ## Paths that match -/

structure PathStyle where
  dialect : Dialect
  hidden : Bool
  deep : Bool

namespace PathStyle

def pattern (style : PathStyle) (field : Field) : Pattern :=
  match style.dialect with
  | .plain => Pattern.ofGlyphs field
  | .extended => Pattern.ofGroupedGlyphs field

def hasPattern (style : PathStyle) (field : Field) : Bool := !(style.pattern field).isPlain

end PathStyle

structure Reach where
  path : Octets
  location : Location

namespace Reach

def names (tree : FileTree) (style : PathStyle) (field : Field) (place : Location) :
    List Octets :=
  let pattern := style.pattern field
  let dotted := field.head?.any fun glyph => glyph.character = '.'
  let children := (tree.children place).map Octets.ofString
  let all := if dotted then [['.'], ['.', '.']] ++ children else children
  all.filter fun name =>
    (dotted || style.hidden || name.head? ≠ some '.') && pattern.matchesText name

def follow (tree : FileTree) (reach : Reach) (name : Octets) : Option Reach := do
  let lookUp (through : Bool) : Option Location :=
    (tree.walk through FileTree.mostLinks reach.location [name.toString]).toOption
  let entry ← lookUp false
  let location := (lookUp true).getD entry
  if (tree.node? entry).isSome then return { path := reach.path ++ name, location } else none

def slashed (tree : FileTree) (reach : Reach) : Option Reach :=
  if tree.isDirectory reach.location then some { reach with path := reach.path ++ ['/'] }
  else none

/-- Everything below a directory, or only the directories, each with a slash then. -/
def below (tree : FileTree) (style : PathStyle) (directoriesOnly : Bool) :
    (fuel : Nat) → Reach → List Reach
  | 0, _ => []
  | fuel + 1, reach =>
      let children := ((tree.children reach.location).map Octets.ofString).filter
        fun name => style.hidden || name.head? ≠ some '.'
      children.flatMap fun name =>
        match reach.follow tree name with
        | none => []
        | some next =>
            match next.slashed tree with
            | some inner =>
                (if directoriesOnly then inner else next) ::
                  below tree style directoriesOnly fuel inner
            | none => if directoriesOnly then [] else [next]

def deepest : Nat := 100

def step (tree : FileTree) (style : PathStyle) (field : Field) (isLast : Bool)
    (reach : Reach) : List Reach :=
  let finish (reach : Reach) : Option Reach :=
    if isLast then some reach else reach.slashed tree
  if style.deep ∧ field = [⟨'*', true⟩, ⟨'*', true⟩] then
    let inner := below tree style (!isLast) deepest reach
    if isLast ∧ reach.path.isEmpty then inner else reach :: inner
  else
    let names :=
      if style.hasPattern field then
        let found := names tree style field reach.location
        if style.dialect = .extended then found.filter fun name => name ≠ ['.'] ∧ name ≠ ['.', '.']
        else found
      else [field.text]
    names.filterMap fun name =>
      if name.isEmpty then finish reach else (reach.follow tree name).bind finish

end Reach

def pathFields (field : Field) : List Field := field.splitOnP (·.character = '/')

def reaches (tree : FileTree) (style : PathStyle) : List Field → List Reach → List Reach
  | [], reached => reached
  | field :: fields, reached =>
      reaches tree style fields
        (reached.flatMap (Reach.step tree style field fields.isEmpty))

def byOctets (first second : Octets) : Bool := !decide (second < first)

def matchingPaths (tree : FileTree) (style : PathStyle) (workingDirectory : Location)
    (field : Field) : List Octets :=
  if !style.hasPattern field then []
  else
    let start : Location :=
      if field.head?.any (·.character = '/') then [] else workingDirectory
    let reached := reaches tree style (pathFields field) [⟨[], start⟩]
    (reached.map Reach.path).mergeSort byOctets

/-! ## Examples -/

example : (fieldsOf [' ', ':'] (Atom.ofText false true "a : b::c ".toList)).map Field.text =
    ["a".toList, "b".toList, [], "c".toList] := by decide +kernel

end BuiltinWrappers.Script
