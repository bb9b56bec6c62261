import BuiltinWrappers.Proofs.Generation.Rendering
import BuiltinWrappers.Proofs.Header.CompilerReading
import BuiltinWrappers.Proofs.Steps

/-!
# All wrappers or none

Headers are rendered only if every delegated name has a wrapper.  If not, the
fault is that of the first name that has none, whatever the names after it.  The
rewritten names are listed without being looked up.
-/

namespace BuiltinWrappers

/-! ## The first name without a wrapper -/

/-- Of the names this fault is that of the first one that has no wrapper. -/
def FirstUnwrapped (catalog : Catalog) (names : List String) (fault : Fault) : Prop :=
  ∃ before name after, names = before ++ name :: after ∧
    (∀ earlier ∈ before, ∃ text, catalog.wrapperText earlier = .ok text) ∧
    catalog.wrapperText name = .error fault

section

variable {catalog : Catalog} {name : String} {names rendered : List String} {fault : Fault}

theorem not_firstUnwrapped_nil : ¬FirstUnwrapped catalog [] fault := by
  rintro ⟨before, name, after, hnames, -⟩
  simp at hnames

theorem firstUnwrapped_cons_iff :
    FirstUnwrapped catalog (name :: names) fault ↔
      catalog.wrapperText name = .error fault ∨
        (∃ text, catalog.wrapperText name = .ok text) ∧
          FirstUnwrapped catalog names fault := by
  constructor
  · rintro ⟨before, unwrapped, after, hnames, hbefore, hfault⟩
    cases before with
    | nil =>
        obtain ⟨rfl, -⟩ := List.cons.inj hnames
        exact .inl hfault
    | cons first before =>
        obtain ⟨rfl, rfl⟩ := List.cons.inj hnames
        rw [List.forall_mem_cons] at hbefore
        exact .inr ⟨hbefore.1, before, unwrapped, after, rfl, hbefore.2, hfault⟩
  · rintro (hfault | ⟨htext, before, unwrapped, after, rfl, hbefore, hfault⟩)
    · exact ⟨[], name, names, rfl, by simp, hfault⟩
    · exact ⟨name :: before, unwrapped, after, rfl,
        List.forall_mem_cons.mpr ⟨htext, hbefore⟩, hfault⟩

theorem exists_firstUnwrapped_iff :
    (∃ fault, FirstUnwrapped catalog names fault) ↔
      ∃ name ∈ names, ∃ fault, catalog.wrapperText name = .error fault := by
  induction names with
  | nil => simp [not_firstUnwrapped_nil]
  | cons name names ih =>
      simp only [firstUnwrapped_cons_iff, exists_or, exists_and_left, ih,
        List.exists_mem_cons_iff]
      cases catalog.wrapperText name with
      | error fault => simp
      | ok text => simp

theorem FirstUnwrapped.eq_notWrappable (h : FirstUnwrapped catalog names fault) :
    ∃ name obstacle, fault = .notWrappable name obstacle := by
  obtain ⟨before, name, after, -, -, hfault⟩ := h
  unfold Catalog.wrapperText at hfault
  cases hwrapper : catalog.wrapper name with
  | error obstacle =>
      simp only [hwrapper, Except.error.injEq] at hfault
      exact ⟨name, obstacle, hfault.symm⟩
  | ok wrapper => simp [hwrapper] at hfault

/-! ## Rendering one name after the other -/

theorem mapM_wrapperText_eq_error_iff :
    names.mapM catalog.wrapperText = .error fault ↔ FirstUnwrapped catalog names fault := by
  induction names with
  | nil => simp [not_firstUnwrapped_nil, pure, Except.pure]
  | cons name names ih =>
      rw [List.mapM_cons, firstUnwrapped_cons_iff, ← ih]
      simp only [bind_eq_error_iff, pure_ne_error, and_false, exists_false, or_false,
        exists_and_right]

theorem mapM_wrapperText_eq_ok_iff_map :
    names.mapM catalog.wrapperText = .ok rendered ↔
      names.map catalog.wrapperText = rendered.map .ok := by
  rw [mapM_wrapperText_eq_ok_iff]
  constructor
  · rintro ⟨wrappers, hwraps, rfl⟩
    rw [← hwraps.names_eq, List.map_map, List.map_map]
    apply List.map_congr_left
    intro wrapper hwrapper
    exact Catalog.wrapperText_eq_ok_iff.mpr ⟨wrapper, hwraps.found wrapper hwrapper, rfl⟩
  · intro hmap
    induction names generalizing rendered with
    | nil =>
        rw [List.map_nil, eq_comm, List.map_eq_nil_iff] at hmap
        exact ⟨[], .nil, hmap.symm⟩
    | cons name names ih =>
        obtain ⟨text, texts, rfl, htext, hrest⟩ := List.map_eq_cons_iff.mp hmap.symm
        obtain ⟨wrapper, hwrapper, rfl⟩ := Catalog.wrapperText_eq_ok_iff.mp htext.symm
        obtain ⟨wrappers, hwraps, rfl⟩ := ih hrest.symm
        exact ⟨wrapper :: wrappers, hwraps.cons hwrapper, rfl⟩

end

/-! ## The headers -/

def listOpening (wrapperPrefix : String) : String :=
  "\n".intercalate (openingTexts ++ [definitionText wrapperPrefix] ++ setTexts) ++ "\n"

def listClosing : String := "\n" ++ "\n".intercalate closingTexts ++ "\n"

theorem compilerText_eq_append (wrapperPrefix : String) (names : List String) :
    compilerText wrapperPrefix names =
      listOpening wrapperPrefix ++ ",\n".intercalate (names.map inQuotes) ++ listClosing := by
  rw [compilerText_eq, listOpening, listClosing, setEntries]
  simp only [openingTexts, setTexts, closingTexts, List.cons_append, List.nil_append,
    String.intercalate_cons_cons, String.intercalate_singleton, String.append_assoc]

def HeaderTexts.unlisted (texts : HeaderTexts) : String × Nat :=
  (texts.runtime, texts.wrapperCount)

namespace Settings

variable {settings : Settings} {catalog : Catalog} {fault : Fault} {texts : HeaderTexts}

theorem headerTexts_eq_error_iff :
    settings.headerTexts catalog = .error fault ↔
      FirstUnwrapped catalog settings.delegated fault := by
  rw [← mapM_wrapperText_eq_error_iff]
  simp only [headerTexts, bind_eq_error_iff, pure_ne_error, and_false, exists_false, or_false]

theorem headerTexts_eq_ok_iff_map :
    settings.headerTexts catalog = .ok texts ↔
      ∃ rendered, settings.delegated.map catalog.wrapperText = rendered.map .ok ∧
        texts = {
          runtime := runtimeText settings.wrapperPrefix rendered
          compiler := compilerText settings.wrapperPrefix settings.listedNames
          wrapperCount := settings.delegated.length } := by
  simp only [headerTexts, bind_eq_ok_iff, pure_eq_ok_iff]
  apply exists_congr
  intro rendered
  rw [mapM_wrapperText_eq_ok_iff_map]
  apply and_congr_right
  intro hrendered
  have hlength := congrArg List.length hrendered
  rw [List.length_map, List.length_map] at hlength
  rw [hlength, eq_comm]

theorem headerTexts_rewritten (settings : Settings) (catalog : Catalog)
    (rewritten : List String) :
    ({ settings with rewritten }.headerTexts catalog).map HeaderTexts.unlisted =
      (settings.headerTexts catalog).map HeaderTexts.unlisted := by
  unfold headerTexts
  cases settings.delegated.mapM catalog.wrapperText with
  | error fault => simp [bind, Except.bind, Except.map]
  | ok rendered =>
      simp [bind, Except.bind, pure, Except.pure, Except.map, HeaderTexts.unlisted]

/--
Either every delegated name is wrapped, in order and once for each time it is
listed, or the first that cannot be is at fault.  The rewritten names show in the
compiler header and nowhere else.
-/
theorem headerTexts_all_or_nothing (settings : Settings) (catalog : Catalog) :
    (∀ fault, settings.headerTexts catalog = .error fault ↔
      FirstUnwrapped catalog settings.delegated fault) ∧
    ((∃ fault, settings.headerTexts catalog = .error fault) ↔
      ∃ name ∈ settings.delegated, ∃ fault, catalog.wrapperText name = .error fault) ∧
    (∀ texts, settings.headerTexts catalog = .ok texts ↔
      ∃ rendered, settings.delegated.map catalog.wrapperText = rendered.map .ok ∧
        texts.runtime = "\n".intercalate
          (banner :: macroDefinition settings.wrapperPrefix :: rendered) ∧
        texts.compiler = listOpening settings.wrapperPrefix ++
          ",\n".intercalate ((settings.rewritten ++ settings.delegated).map inQuotes) ++
          listClosing ∧
        texts.wrapperCount = settings.delegated.length) ∧
    ∀ rewritten,
      ({ settings with rewritten }.headerTexts catalog).map HeaderTexts.unlisted =
        (settings.headerTexts catalog).map HeaderTexts.unlisted := by
  refine ⟨fun _ => headerTexts_eq_error_iff, ?_, ?_, headerTexts_rewritten settings catalog⟩
  · simp only [headerTexts_eq_error_iff]
    exact exists_firstUnwrapped_iff
  · intro texts
    rw [headerTexts_eq_ok_iff_map]
    apply exists_congr
    intro rendered
    apply and_congr_right
    intro _
    rw [compilerText_eq_append, HeaderTexts.mk.injEq]
    rfl

end Settings

end BuiltinWrappers
