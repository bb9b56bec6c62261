import BuiltinWrappers.Proofs.Settings.Identifiers
import BuiltinWrappers.Proofs.Signature.Spelling
import BuiltinWrappers.Proofs.Wrapper.Construction

/-!
# The characters of a wrapper

The names in a wrapper are made of identifier characters, and its types of these,
the star and the space.  None of them is a character that the text of a wrapper
has between two of its parts.
-/

namespace BuiltinWrappers

/-! ## Plain characters -/

def isPlainCharacter (character : Char) : Bool :=
  isIdentifierCharacter character || character = '*' || character = ' '

theorem isPlainCharacter_of_identifier {character : Char}
    (h : isIdentifierCharacter character) : isPlainCharacter character := by
  simp [isPlainCharacter, h]

theorem isPlainCharacter_of_type {signature type : String} {character : Char}
    (htype : type ∈ Signature.types signature) (h : character ∈ type.toList) :
    isPlainCharacter character := by
  obtain ⟨units, htypes, -⟩ := Signature.types_eq_units signature
  rw [htypes] at htype
  obtain ⟨unit, -, rfl⟩ := List.mem_map.mp htype
  rcases Signature.TypeUnit.mem_text h with hword | rfl
  · simp only [Signature.isWordCharacter, Bool.or_eq_true] at hword
    simp only [isPlainCharacter, isIdentifierCharacter, Char.isAlphanum, Bool.or_eq_true]
    tauto
  · decide

namespace Wrapper

theorem isIdentifierCharacter_of_parameterName {index : Nat} {character : Char}
    (h : character ∈ (parameterName index).toList) :
    isIdentifierCharacter character := by
  rw [parameterName, String.toList_append, List.mem_append] at h
  rcases h with hstem | hdigit
  · have hall : ("arg".toList).all isIdentifierCharacter := by decide
    exact List.all_eq_true.mp hall character hstem
  · rw [Nat.repr, String.toList_ofList] at hdigit
    have := Nat.isDigit_of_mem_toDigits (by decide) (by decide) hdigit
    simp [isIdentifierCharacter, Char.isAlphanum, this]

/-! ## Wrappers -/

/-- No part of the wrapper holds a character that separates parts. -/
structure Plain (wrapper : Wrapper) : Prop where
  name : ∀ character ∈ wrapper.name.toList, isIdentifierCharacter character
  returnType : ∀ character ∈ wrapper.returnType.toList, isPlainCharacter character
  parameterTypes : ∀ parameter ∈ wrapper.parameters,
    ∀ character ∈ parameter.type.toList, isPlainCharacter character
  parameterNames : ∀ parameter ∈ wrapper.parameters,
    ∀ character ∈ parameter.name.toList, isIdentifierCharacter character

theorem plain_of_ofDeclaration {library : Declaration} {wrapper : Wrapper}
    (hbuilt : ofDeclaration library = .ok wrapper)
    (hname : ∀ character ∈ library.name.toList, isIdentifierCharacter character) :
    wrapper.Plain := by
  have htypes := types_of_ofDeclaration hbuilt
  constructor
  · intro character h
    rw [name_of_ofDeclaration hbuilt] at h
    exact hname character h
  · intro character h
    exact isPlainCharacter_of_type (by rw [htypes]; exact List.mem_cons_self) h
  · intro parameter hparameter character h
    have htype : parameter.type ∈ Signature.types library.signature := by
      rw [htypes]
      exact List.mem_cons_of_mem _ (List.mem_map_of_mem hparameter)
    exact isPlainCharacter_of_type htype h
  · intro parameter hparameter character h
    obtain ⟨index, hindex⟩ := exists_parameterName_of_mem hbuilt hparameter
    rw [hindex] at h
    exact isIdentifierCharacter_of_parameterName h

theorem plain_unnamed_of_ofDeclaration {library : Declaration} {wrapper : Wrapper}
    (hbuilt : ofDeclaration library = .ok wrapper) :
    ({ wrapper with name := "" } : Wrapper).Plain := by
  have hunnamed : ofDeclaration { library with name := "" } =
      .ok { wrapper with name := "" } := by
    rw [ofDeclaration_rename, hbuilt]
    rfl
  exact plain_of_ofDeclaration hunnamed (by simp)

end Wrapper

theorem Catalog.plain_of_wrapper {catalog : Catalog} {name : String} {wrapper : Wrapper}
    (hwrapper : catalog.wrapper name = .ok wrapper) (hname : isIdentifier name) :
    wrapper.Plain := by
  obtain ⟨library, heligible, hbuilt⟩ := wrapper_eq_ok_iff.mp hwrapper
  have hlibrary := name_of_find? (eligible_eq_ok_iff.mp heligible).1
  rw [← hlibrary] at hname
  exact Wrapper.plain_of_ofDeclaration hbuilt fun _ => isIdentifierCharacter_of_mem hname

end BuiltinWrappers
