import BuiltinWrappers.Proofs.Catalog.History
import BuiltinWrappers.Proofs.Wrapper.Characters

/-!
# Rendering both headers

Headers are rendered from the wrappers of the delegated names, one for each name
and in their order.  Where the settings are valid these wrappers are plain, and
all listed names are identifiers.
-/

namespace BuiltinWrappers

/-! ## The wrappers of a list of names -/

/-- One wrapper from the catalog for each of the names, in their order. -/
structure Wraps (catalog : Catalog) (names : List String) (wrappers : List Wrapper) :
    Prop where
  names_eq : wrappers.map Wrapper.name = names
  found : ∀ wrapper ∈ wrappers, catalog.wrapper wrapper.name = .ok wrapper

namespace Wraps

variable {catalog : Catalog} {names : List String} {wrappers : List Wrapper}

theorem nil : Wraps catalog [] [] := ⟨rfl, by simp⟩

theorem cons {name : String} {wrapper : Wrapper}
    (hwrapper : catalog.wrapper name = .ok wrapper) (hrest : Wraps catalog names wrappers) :
    Wraps catalog (name :: names) (wrapper :: wrappers) := by
  have hname := Catalog.name_of_wrapper hwrapper
  constructor
  · rw [List.map_cons, hname, hrest.names_eq]
  · rw [List.forall_mem_cons, hname]
    exact ⟨hwrapper, hrest.found⟩

theorem of_cons {name : String} (h : Wraps catalog (name :: names) wrappers) :
    ∃ wrapper rest, wrappers = wrapper :: rest ∧ catalog.wrapper name = .ok wrapper ∧
      Wraps catalog names rest := by
  obtain ⟨hnames, hfound⟩ := h
  cases wrappers with
  | nil => simp at hnames
  | cons wrapper rest =>
      obtain ⟨rfl, hrest⟩ := List.cons.inj hnames
      rw [List.forall_mem_cons] at hfound
      exact ⟨wrapper, rest, rfl, hfound.1, hrest, hfound.2⟩

theorem plain (h : Wraps catalog names wrappers)
    (hidentifiers : ∀ name ∈ names, isIdentifier name) :
    ∀ wrapper ∈ wrappers, wrapper.Plain := by
  intro wrapper hwrapper
  apply Catalog.plain_of_wrapper (h.found wrapper hwrapper)
  apply hidentifiers
  rw [← h.names_eq]
  exact List.mem_map_of_mem hwrapper

end Wraps

theorem mapM_wrapperText_eq_ok_iff {catalog : Catalog} {names rendered : List String} :
    names.mapM catalog.wrapperText = .ok rendered ↔
      ∃ wrappers, Wraps catalog names wrappers ∧
        wrappers.map Wrapper.render = rendered := by
  induction names generalizing rendered with
  | nil =>
      rw [List.mapM_nil]
      constructor
      · intro h
        exact ⟨[], .nil, Except.ok.inj h⟩
      · rintro ⟨wrappers, hwraps, rfl⟩
        rw [List.map_eq_nil_iff.mp hwraps.names_eq]
        rfl
  | cons name names ih =>
      rw [List.mapM_cons]
      constructor
      · intro h
        cases hfirst : catalog.wrapperText name with
        | error fault =>
            rw [hfirst] at h
            simp [bind, Except.bind] at h
        | ok text =>
            cases hothers : names.mapM catalog.wrapperText with
            | error fault =>
                rw [hfirst, hothers] at h
                simp [bind, Except.bind] at h
            | ok texts =>
                rw [hfirst, hothers] at h
                obtain ⟨wrapper, hwrapper, rfl⟩ := Catalog.wrapperText_eq_ok_iff.mp hfirst
                obtain ⟨wrappers, hwraps, rfl⟩ := ih.mp hothers
                exact ⟨wrapper :: wrappers, hwraps.cons hwrapper, Except.ok.inj h⟩
      · rintro ⟨wrappers, hwraps, rfl⟩
        obtain ⟨wrapper, rest, rfl, hwrapper, hrest⟩ := hwraps.of_cons
        rw [Catalog.wrapperText_eq_ok_iff.mpr ⟨wrapper, hwrapper, rfl⟩,
          ih.mpr ⟨rest, hrest, rfl⟩]
        rfl

/-! ## The headers -/

def Settings.textsOf (settings : Settings) (wrappers : List Wrapper) : HeaderTexts where
  runtime := runtimeText settings.wrapperPrefix (wrappers.map Wrapper.render)
  compiler := compilerText settings.wrapperPrefix settings.listedNames
  wrapperCount := wrappers.length

theorem Settings.headerTexts_eq_ok_iff {settings : Settings} {catalog : Catalog}
    {texts : HeaderTexts} :
    settings.headerTexts catalog = .ok texts ↔
      ∃ wrappers, Wraps catalog settings.delegated wrappers ∧
        texts = settings.textsOf wrappers := by
  unfold headerTexts textsOf
  cases hrendered : settings.delegated.mapM catalog.wrapperText with
  | error fault =>
      simp only [bind, Except.bind, reduceCtorEq, false_iff]
      rintro ⟨wrappers, hwraps, -⟩
      rw [mapM_wrapperText_eq_ok_iff.mpr ⟨wrappers, hwraps, rfl⟩] at hrendered
      simp at hrendered
  | ok rendered =>
      obtain ⟨wrappers, hwraps, rfl⟩ := mapM_wrapperText_eq_ok_iff.mp hrendered
      simp only [bind, Except.bind, pure, Except.pure, Except.ok.injEq, List.length_map]
      constructor
      · rintro rfl
        exact ⟨wrappers, hwraps, rfl⟩
      · rintro ⟨others, hothers, rfl⟩
        have hrender := mapM_wrapperText_eq_ok_iff.mpr ⟨others, hothers, rfl⟩
        rw [hrendered] at hrender
        have hsame := Except.ok.inj hrender
        have hlength := congrArg List.length hsame
        rw [List.length_map, List.length_map] at hlength
        rw [hsame, hlength]

/-- The texts are rendered from valid settings over a catalog. -/
structure Rendered (settings : Settings) (catalog : Catalog) (texts : HeaderTexts) :
    Prop where
  valid : settings.check = .ok ()
  headerTexts_eq : settings.headerTexts catalog = .ok texts

namespace Rendered

variable {settings : Settings} {catalog : Catalog} {texts : HeaderTexts}

theorem exists_wrappers (h : Rendered settings catalog texts) :
    ∃ wrappers, Wraps catalog settings.delegated wrappers ∧
      texts = settings.textsOf wrappers :=
  Settings.headerTexts_eq_ok_iff.mp h.headerTexts_eq

theorem isIdentifier_wrapperPrefix (h : Rendered settings catalog texts) :
    isIdentifier settings.wrapperPrefix :=
  (Settings.check_eq_ok_iff.mp h.valid).1

theorem isIdentifier_of_listed (h : Rendered settings catalog texts) :
    ∀ name ∈ settings.listedNames, isIdentifier name :=
  (Settings.check_eq_ok_iff.mp h.valid).2

theorem isIdentifier_of_delegated (h : Rendered settings catalog texts) :
    ∀ name ∈ settings.delegated, isIdentifier name :=
  fun name hname => h.isIdentifier_of_listed name (List.mem_append_right _ hname)

end Rendered

/-! ## A catalog with one wrapper -/

def cabsCatalog : Catalog := .ofDeclarations [
  ⟨"cabs", "dXd", "fne", .library "complex.h" "ALL_LANGUAGES"⟩,
  ⟨"__builtin_cabs", "dXd", "Fne", .plain⟩]

def cabsWrapper : Wrapper := ⟨"cabs", "double", [⟨"_Complex double", "arg0"⟩]⟩

theorem wrapper_cabsCatalog : cabsCatalog.wrapper "cabs" = .ok cabsWrapper := by
  rw [Catalog.wrapper_eq_ok_iff]
  refine ⟨⟨"cabs", "dXd", "fne", .library "complex.h" "ALL_LANGUAGES"⟩, ?_, ?_⟩
  · rw [Catalog.eligible_eq_ok_iff]
    refine ⟨?_, by decide, ⟨"__builtin_cabs", "dXd", "Fne", .plain⟩, ?_, by decide⟩
    · rw [cabsCatalog, Catalog.find?_ofDeclarations]
      decide
    · rw [cabsCatalog, Catalog.find?_ofDeclarations]
      decide
  · decide +kernel

theorem rendered_cabsCatalog {settings : Settings} (hvalid : settings.check = .ok ())
    (hdelegated : settings.delegated = ["cabs"]) :
    Rendered settings cabsCatalog (settings.textsOf [cabsWrapper]) := by
  refine ⟨hvalid, Settings.headerTexts_eq_ok_iff.mpr ⟨[cabsWrapper], ?_, rfl⟩⟩
  rw [hdelegated]
  exact Wraps.nil.cons wrapper_cabsCatalog

end BuiltinWrappers
