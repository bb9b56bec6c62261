import BuiltinWrappers.Text.Scan
import BuiltinWrappers.Text.Word

/-!
# Builtin declarations

A declaration file states one builtin per line, in a library form that names a
C header and the languages it holds for, or in a plain form.  A line that fits
neither form declares nothing.
-/

namespace BuiltinWrappers

inductive DeclarationKind where
  | plain
  | library (header languages : String)
  deriving DecidableEq, Repr

structure Declaration where
  name : String
  signature : String
  attributes : String
  kind : DeclarationKind := .plain
  deriving DecidableEq, Repr

namespace Declaration

open Text

def isLibrary (declaration : Declaration) : Bool :=
  match declaration.kind with
  | .plain => false
  | .library _ _ => true

/-- A redirected builtin forwards to the library function of the same name. -/
def isRedirected (declaration : Declaration) : Bool :=
  declaration.attributes.toList.contains 'F'

/-! ## Characters of the parts of a line -/

def isSignatureCharacter (character : Char) : Bool :=
  isWord character || character = '*' || character = '.'

def isAttributeCharacter (character : Char) : Bool :=
  isWord character || character = '+' || character = ':'

def isHeaderCharacter (character : Char) : Bool :=
  isWord character || character = '.' || character = '/' || character = '-'

def isGapCharacter (character : Char) : Bool :=
  character = ',' || character = ' '

/-! ## Reading a line -/

def libraryMarker : List Char := "LIBBUILTIN".toList

def plainMarker : List Char := "BUILTIN".toList

def gap? (text : List Char) : Option (List Char) :=
  (run? isGapCharacter text).map Prod.snd

def quotedRun? (accepts : Char → Bool) (text : List Char) :
    Option (List Char × List Char) := do
  let text ← literal? ['"'] text
  let (run, text) ← run? accepts text
  let text ← literal? ['"'] text
  return (run, text)

/-- The parts that both forms begin with: name, signature and attributes. -/
def parseCommon? (text : List Char) : Option (Declaration × List Char) := do
  let text ← literal? ['('] text
  let (name, text) ← run? isWord text
  let text ← gap? text
  let (signature, text) ← quotedRun? isSignatureCharacter text
  let text ← gap? text
  let (attributes, text) ← quotedRun? isAttributeCharacter text
  return (⟨.ofList name, .ofList signature, .ofList attributes, .plain⟩, text)

def parseLibrary? (line : List Char) : Option Declaration := do
  let text ← literal? libraryMarker line
  let (declaration, text) ← parseCommon? text
  let text ← gap? text
  let (header, text) ← run? isHeaderCharacter text
  let text ← gap? text
  let (languages, text) ← run? isWord text
  let _ ← literal? [')'] text
  return { declaration with kind := .library (.ofList header) (.ofList languages) }

def parsePlain? (line : List Char) : Option Declaration := do
  let text ← literal? plainMarker line
  let (declaration, text) ← parseCommon? text
  let _ ← literal? [')'] text
  return declaration

/-- The marker at the front of a line decides which of the two forms is tried. -/
def parse? (line : List Char) : Option Declaration :=
  if libraryMarker.isPrefixOf line then parseLibrary? line
  else if plainMarker.isPrefixOf line then parsePlain? line
  else none

/-! ## The form of a declaration -/

theorem kind_of_parseCommon? {text rest : List Char} {declaration : Declaration}
    (h : parseCommon? text = some (declaration, rest)) : declaration.kind = .plain := by
  simp only [parseCommon?, Option.bind_eq_bind, Option.bind_eq_some_iff,
    Option.pure_def, Option.some.injEq, Prod.mk.injEq] at h
  obtain ⟨-, -, ⟨-, -⟩, -, -, -, ⟨-, -⟩, -, -, -, ⟨-, -⟩, -, rfl, -⟩ := h
  rfl

theorem isLibrary_of_parseLibrary? {line : List Char} {declaration : Declaration}
    (h : parseLibrary? line = some declaration) : declaration.isLibrary := by
  simp only [parseLibrary?, Option.bind_eq_bind, Option.bind_eq_some_iff,
    Option.pure_def, Option.some.injEq] at h
  obtain ⟨-, -, ⟨-, -⟩, -, -, -, ⟨-, -⟩, -, -, -, ⟨-, -⟩, -, -, -, rfl⟩ := h
  rfl

theorem not_isLibrary_of_parsePlain? {line : List Char} {declaration : Declaration}
    (h : parsePlain? line = some declaration) : ¬declaration.isLibrary := by
  simp only [parsePlain?, Option.bind_eq_bind, Option.bind_eq_some_iff,
    Option.pure_def, Option.some.injEq] at h
  obtain ⟨text, -, ⟨found, rest⟩, hcommon, -, -, rfl⟩ := h
  simp [isLibrary, kind_of_parseCommon? hcommon]

/-- The marker of a line that declares something tells the form of the declaration. -/
theorem isLibrary_iff_of_parse? {line : List Char} {declaration : Declaration}
    (h : parse? line = some declaration) :
    declaration.isLibrary ↔ libraryMarker <+: line := by
  unfold parse? at h
  split at h
  next hmarker =>
    simpa [List.isPrefixOf_iff_prefix.mp hmarker] using isLibrary_of_parseLibrary? h
  next hmarker =>
    rw [List.isPrefixOf_iff_prefix] at hmarker
    split at h
    · simpa [hmarker] using not_isLibrary_of_parsePlain? h
    · simp at h

/-! ## Examples -/

example : parse? "LIBBUILTIN(cabs, \"dXd\", \"fne\", complex.h, ALL_LANGUAGES) // C".toList =
    some ⟨"cabs", "dXd", "fne", .library "complex.h" "ALL_LANGUAGES"⟩ := by
  decide +kernel

example : parse? "BUILTIN(__builtin_cabs \"dXd\",,\"Fne\")".toList =
    some ⟨"__builtin_cabs", "dXd", "Fne", .plain⟩ := by
  decide +kernel

end Declaration

end BuiltinWrappers
