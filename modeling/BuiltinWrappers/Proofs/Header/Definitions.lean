import BuiltinWrappers.Proofs.Generation.Rendering
import BuiltinWrappers.Proofs.Header.RuntimeReading
import Mathlib.Data.List.Nodup

/-!
# What a runtime header defines

A line that begins an inline function with the prefixing macro defines the name
in the macro's parentheses.  A header defines the delegated names, each as often
as it is delegated and whether it is rewritten or not.
-/

namespace BuiltinWrappers

open Text

/-! ## Definitions in a text -/

def definedName? (line : List Char) : Option String := do
  let text ← literal? Wrapper.headWords line
  let (declarator, text) ← upTo? '(' text
  let (_, macroName) ← declarator? declarator
  let (name, _) ← upTo? ')' text
  if macroName = prefixingMacro.toList then return .ofList name else none

def definedNames (text : List Char) : List String :=
  (text.splitOn '\n').filterMap definedName?

theorem definedName?_eq_none_of_head {line : List Char} (h : line.head? ≠ some 's') :
    definedName? line = none := by
  have hwords : Wrapper.headWords.head? = some 's' := by decide
  unfold definedName?
  cases hliteral : literal? Wrapper.headWords line with
  | none => rfl
  | some rest =>
      rw [literal?_eq_some_iff.mp hliteral, List.head?_append, hwords] at h
      simp at h

namespace Wrapper.Plain

variable {wrapper : Wrapper} (hplain : wrapper.Plain)
include hplain

theorem definedName?_headLine : definedName? wrapper.headLine = some wrapper.name := by
  obtain ⟨hopen, hspace⟩ := hplain.declarator
  have hname : ')' ∉ wrapper.name.toList := not_mem_of_class hplain.name (by decide)
  unfold definedName?
  rw [wrapper.headLine_eq]
  simp only [Option.bind_eq_bind, Option.bind_some, literal?_append, upTo?_append _ hopen,
    declarator?_append _ hspace, upTo?_append _ hname, if_true, Option.pure_def,
    String.ofList_toList]

theorem filterMap_definedName?_lines :
    wrapper.lines.filterMap definedName? = [wrapper.name] := by
  have hbody : wrapper.bodyLine.head? ≠ some 's' := by
    have hwords : bodyWords.head? = some ' ' := by decide
    unfold Wrapper.bodyLine
    rw [List.append_assoc, List.append_assoc, List.head?_append, hwords]
    simp
  unfold Wrapper.lines
  rw [List.filterMap_cons_some hplain.definedName?_headLine,
    List.filterMap_cons_none (definedName?_eq_none_of_head (by decide)),
    List.filterMap_cons_none (definedName?_eq_none_of_head hbody),
    List.filterMap_cons_none (definedName?_eq_none_of_head (by decide)),
    List.filterMap_cons_none (definedName?_eq_none_of_head (by decide)),
    List.filterMap_nil]

end Wrapper.Plain

theorem definedNames_runtimeText {wrapperPrefix : String} {wrappers : List Wrapper}
    (hidentifier : isIdentifier wrapperPrefix)
    (hplain : ∀ wrapper ∈ wrappers, wrapper.Plain) :
    definedNames (runtimeText wrapperPrefix (wrappers.map Wrapper.render)).toList =
      wrappers.map Wrapper.name := by
  have hbanner : banner.toList.head? ≠ some 's' := by decide
  have hmacro : (macroDefinition wrapperPrefix).toList.head? ≠ some 's' := by
    have hopening : macroOpening.head? = some '#' := by decide
    rw [macroDefinition_toList, List.head?_append, hopening]
    simp
  have hwrappers : (wrappers.flatMap Wrapper.lines).filterMap definedName? =
      wrappers.map Wrapper.name := by
    rw [List.filterMap_flatMap, List.map_eq_flatMap]
    exact List.flatMap_congr fun wrapper hwrapper =>
      (hplain wrapper hwrapper).filterMap_definedName?_lines
  rw [definedNames, runtimeText_splitOn hidentifier, render_splitOn hplain,
    List.filterMap_cons_none (definedName?_eq_none_of_head hbanner),
    List.filterMap_cons_none (definedName?_eq_none_of_head hmacro), hwrappers]

/-! ## Definitions in the header of a run -/

/-- No rewritten name is defined, and every other delegated name is defined once. -/
def DefinedOnce (settings : Settings) (names : List String) : Prop :=
  (∀ name ∈ settings.rewritten, names.count name = 0) ∧
    ∀ name ∈ settings.delegated, name ∉ settings.rewritten → names.count name = 1

theorem definedOnce_delegated_iff {settings : Settings} :
    DefinedOnce settings settings.delegated ↔
      (∀ name ∈ settings.delegated, name ∉ settings.rewritten) ∧
        settings.delegated.Nodup := by
  unfold DefinedOnce
  constructor
  · rintro ⟨hrewritten, hdelegated⟩
    have hdisjoint : ∀ name ∈ settings.delegated, name ∉ settings.rewritten := by
      intro name hmem hname
      exact List.count_eq_zero.mp (hrewritten name hname) hmem
    refine ⟨hdisjoint, List.nodup_iff_count_eq_one.mpr ?_⟩
    intro name hmem
    exact hdelegated name hmem (hdisjoint name hmem)
  · rintro ⟨hdisjoint, hnodup⟩
    constructor
    · intro name hname
      exact List.count_eq_zero.mpr fun hmem => hdisjoint name hmem hname
    · intro name hmem _
      exact List.count_eq_one_of_mem hnodup hmem

namespace Rendered

variable {settings : Settings} {catalog : Catalog} {texts : HeaderTexts}

theorem definedNames_runtime (h : Rendered settings catalog texts) :
    definedNames texts.runtime.toList = settings.delegated := by
  obtain ⟨wrappers, hwraps, rfl⟩ := h.exists_wrappers
  rw [← hwraps.names_eq]
  exact definedNames_runtimeText h.isIdentifier_wrapperPrefix
    (hwraps.plain h.isIdentifier_of_delegated)

/-- A name in both lists is defined all the same, and a repeated name repeatedly. -/
theorem definedOnce_iff (h : Rendered settings catalog texts) :
    DefinedOnce settings (definedNames texts.runtime.toList) ↔
      (∀ name ∈ settings.delegated, name ∉ settings.rewritten) ∧
        settings.delegated.Nodup := by
  rw [h.definedNames_runtime]
  exact definedOnce_delegated_iff

end Rendered

def separateSettings : Settings where
  delegated := ["cabs"]
  rewritten := ["cexp"]

theorem definedOnce_separate :
    Rendered separateSettings cabsCatalog (separateSettings.textsOf [cabsWrapper]) ∧
      DefinedOnce separateSettings
        (definedNames (separateSettings.textsOf [cabsWrapper]).runtime.toList) := by
  have hrendered :
      Rendered separateSettings cabsCatalog (separateSettings.textsOf [cabsWrapper]) :=
    rendered_cabsCatalog (by decide) rfl
  exact ⟨hrendered, (Rendered.definedOnce_iff hrendered).mpr (by decide)⟩

def sharedSettings : Settings where
  delegated := ["cabs"]
  rewritten := ["cabs"]

theorem not_definedOnce_shared :
    Rendered sharedSettings cabsCatalog (sharedSettings.textsOf [cabsWrapper]) ∧
      "cabs" ∈ sharedSettings.rewritten ∧
      definedNames (sharedSettings.textsOf [cabsWrapper]).runtime.toList = ["cabs"] ∧
      ¬DefinedOnce sharedSettings
        (definedNames (sharedSettings.textsOf [cabsWrapper]).runtime.toList) := by
  have hrendered :
      Rendered sharedSettings cabsCatalog (sharedSettings.textsOf [cabsWrapper]) :=
    rendered_cabsCatalog (by decide) rfl
  have hnames : definedNames (sharedSettings.textsOf [cabsWrapper]).runtime.toList =
      ["cabs"] := hrendered.definedNames_runtime
  have hrewritten : "cabs" ∈ sharedSettings.rewritten := by decide
  refine ⟨hrendered, hrewritten, hnames, ?_⟩
  rintro ⟨hundefined, -⟩
  have hcount := hundefined "cabs" hrewritten
  rw [hnames] at hcount
  exact absurd hcount (by decide)

end BuiltinWrappers
