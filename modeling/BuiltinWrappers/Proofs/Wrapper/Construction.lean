import BuiltinWrappers.Generation
import BuiltinWrappers.Proofs.Signature.Units

/-!
# How a wrapper is built

A wrapper takes its name and all its types from one library declaration.  The
only obstacle at this point is a signature that does not begin with a code.
-/

namespace BuiltinWrappers

/-! ## From a declaration -/

namespace Wrapper

theorem ofDeclaration_eq_error_iff {library : Declaration} {obstacle : Obstacle} :
    ofDeclaration library = .error obstacle ↔
      Signature.types library.signature = [] ∧
        obstacle = .emptySignature library.signature := by
  unfold ofDeclaration
  split
  next hnil => simp [hnil, eq_comm]
  next hcons => simp [hcons]

/-- The name of a declaration is only carried along. -/
theorem ofDeclaration_rename (library : Declaration) (name : String) :
    ofDeclaration { library with name } =
      (ofDeclaration library).map fun wrapper => { wrapper with name } := by
  unfold ofDeclaration
  cases Signature.types library.signature with
  | nil => rfl
  | cons returnType types => rfl

theorem name_of_ofDeclaration {library : Declaration} {wrapper : Wrapper}
    (h : ofDeclaration library = .ok wrapper) : wrapper.name = library.name := by
  unfold ofDeclaration at h
  split at h
  · simp at h
  · obtain rfl := Except.ok.inj h
    rfl

theorem types_of_ofDeclaration {library : Declaration} {wrapper : Wrapper}
    (h : ofDeclaration library = .ok wrapper) :
    Signature.types library.signature =
      wrapper.returnType :: wrapper.parameters.map Parameter.type := by
  unfold ofDeclaration at h
  split at h
  · simp at h
  next returnType types htypes =>
    obtain rfl := Except.ok.inj h
    rw [htypes, List.map_map]
    congr 1
    exact (List.zipIdx_map_fst 0 types).symm

theorem parameter_names_of_ofDeclaration {library : Declaration} {wrapper : Wrapper}
    (h : ofDeclaration library = .ok wrapper) :
    wrapper.parameters.map Parameter.name =
      (List.range wrapper.parameters.length).map parameterName := by
  unfold ofDeclaration at h
  split at h
  · simp at h
  next returnType types htypes =>
    obtain rfl := Except.ok.inj h
    rw [List.map_map, List.length_map, List.length_zipIdx, List.range_eq_range',
      ← List.zipIdx_map_snd 0 types, List.map_map]
    rfl

theorem exists_parameterName_of_mem {library : Declaration} {wrapper : Wrapper}
    {parameter : Parameter} (h : ofDeclaration library = .ok wrapper)
    (hparameter : parameter ∈ wrapper.parameters) :
    ∃ index, parameter.name = parameterName index := by
  have hname := List.mem_map_of_mem (f := Parameter.name) hparameter
  rw [parameter_names_of_ofDeclaration h] at hname
  obtain ⟨index, -, hindex⟩ := List.mem_map.mp hname
  exact ⟨index, hindex.symm⟩

theorem getElem?_parameters_of_ofDeclaration {library : Declaration} {wrapper : Wrapper}
    (h : ofDeclaration library = .ok wrapper) (index : Nat) :
    wrapper.parameters[index]? =
      (Signature.types library.signature)[index + 1]?.map fun type =>
        ⟨type, parameterName index⟩ := by
  unfold ofDeclaration at h
  split at h
  · simp at h
  next returnType types htypes =>
    obtain rfl := Except.ok.inj h
    rw [htypes, List.getElem?_cons_succ, List.getElem?_map, List.getElem?_zipIdx,
      Option.map_map, Nat.zero_add]
    rfl

end Wrapper

/-! ## From a catalog -/

namespace Catalog

theorem wrapper_eq_ok_iff {catalog : Catalog} {name : String} {wrapper : Wrapper} :
    catalog.wrapper name = .ok wrapper ↔
      ∃ library, catalog.eligible name = .ok library ∧
        Wrapper.ofDeclaration library = .ok wrapper := by
  unfold Catalog.wrapper
  cases catalog.eligible name with
  | error obstacle => simp [bind, Except.bind]
  | ok library => simp [bind, Except.bind]

theorem wrapper_eq_error_iff {catalog : Catalog} {name : String} {obstacle : Obstacle} :
    catalog.wrapper name = .error obstacle ↔
      catalog.eligible name = .error obstacle ∨
      ∃ library, catalog.eligible name = .ok library ∧
        Signature.types library.signature = [] ∧
        obstacle = .emptySignature library.signature := by
  unfold Catalog.wrapper
  cases catalog.eligible name with
  | error found => simp [bind, Except.bind]
  | ok library => simp [bind, Except.bind, Wrapper.ofDeclaration_eq_error_iff]

theorem name_of_wrapper {catalog : Catalog} {name : String} {wrapper : Wrapper}
    (h : catalog.wrapper name = .ok wrapper) : wrapper.name = name := by
  obtain ⟨library, heligible, hbuilt⟩ := wrapper_eq_ok_iff.mp h
  rw [Wrapper.name_of_ofDeclaration hbuilt]
  exact name_of_find? (eligible_eq_ok_iff.mp heligible).1

theorem wrapperText_eq_ok_iff {catalog : Catalog} {name text : String} :
    catalog.wrapperText name = .ok text ↔
      ∃ wrapper, catalog.wrapper name = .ok wrapper ∧ wrapper.render = text := by
  unfold wrapperText
  cases catalog.wrapper name with
  | error obstacle => simp
  | ok wrapper => simp

theorem wrapperText_eq_error_iff {catalog : Catalog} {name : String} {fault : Fault} :
    catalog.wrapperText name = .error fault ↔
      ∃ obstacle, catalog.wrapper name = .error obstacle ∧
        fault = .notWrappable name obstacle := by
  unfold wrapperText
  cases catalog.wrapper name with
  | error obstacle => simp [eq_comm]
  | ok wrapper => simp

end Catalog

end BuiltinWrappers
