import BuiltinWrappers.Proofs.Generation.Rendering
import BuiltinWrappers.Proofs.Header.CompilerReading
import BuiltinWrappers.Proofs.Header.RuntimeReading

/-!
# Two headers that agree

Each header of a run gives back what it was rendered from.  The set in the
compiler header is then the rewritten names and after them the names of the
wrappers in the runtime header, and equal headers have equal origins as far as
they can tell.
-/

namespace BuiltinWrappers

/-! ## What a wrapper tells about its declaration -/

theorem codePrefix_eq_of_wrapper {catalog other : Catalog} {name : String}
    {wrapper : Wrapper} (h : catalog.wrapper name = .ok wrapper)
    (hother : other.wrapper name = .ok wrapper) :
    ∃ library otherLibrary, catalog.eligible name = .ok library ∧
      other.eligible name = .ok otherLibrary ∧
      Signature.codePrefix library.signature =
        Signature.codePrefix otherLibrary.signature := by
  obtain ⟨library, heligible, hbuilt⟩ := Catalog.wrapper_eq_ok_iff.mp h
  obtain ⟨otherLibrary, hotherEligible, hotherBuilt⟩ := Catalog.wrapper_eq_ok_iff.mp hother
  refine ⟨library, otherLibrary, heligible, hotherEligible, ?_⟩
  rw [Signature.codePrefix_eq_codesOf, Signature.codePrefix_eq_codesOf,
    Wrapper.types_of_ofDeclaration hbuilt, Wrapper.types_of_ofDeclaration hotherBuilt]

/-! ## Reading the headers of a run -/

namespace Rendered

variable {settings : Settings} {catalog : Catalog} {texts : HeaderTexts}

theorem readRuntime?_runtime (h : Rendered settings catalog texts) :
    ∃ wrappers, Wraps catalog settings.delegated wrappers ∧
      readRuntime? texts.runtime.toList = some (settings.wrapperPrefix, wrappers) := by
  obtain ⟨wrappers, hwraps, rfl⟩ := h.exists_wrappers
  exact ⟨wrappers, hwraps, readRuntime?_runtimeText h.isIdentifier_wrapperPrefix
    (hwraps.plain h.isIdentifier_of_delegated)⟩

theorem readCompiler?_compiler (h : Rendered settings catalog texts) :
    readCompiler? texts.compiler.toList =
      some (settings.wrapperPrefix, settings.listedNames) := by
  obtain ⟨wrappers, -, rfl⟩ := h.exists_wrappers
  exact readCompiler?_compilerText h.isIdentifier_wrapperPrefix h.isIdentifier_of_listed

/-- Both headers can be read back, and what they give is the same for both. -/
theorem headers_agree (h : Rendered settings catalog texts) :
    ∃ wrappers,
      readRuntime? texts.runtime.toList = some (settings.wrapperPrefix, wrappers) ∧
      wrappers.map Wrapper.name = settings.delegated ∧
      (∀ wrapper ∈ wrappers, catalog.wrapper wrapper.name = .ok wrapper) ∧
      readCompiler? texts.compiler.toList =
        some (settings.wrapperPrefix, settings.listedNames) ∧
      settings.listedNames = settings.rewritten ++ wrappers.map Wrapper.name ∧
      (∀ other otherCatalog otherTexts, Rendered other otherCatalog otherTexts →
        otherTexts.compiler = texts.compiler →
          other.wrapperPrefix = settings.wrapperPrefix ∧
          other.listedNames = settings.listedNames) ∧
      ∀ other otherCatalog otherTexts, Rendered other otherCatalog otherTexts →
        otherTexts.runtime = texts.runtime →
          other.wrapperPrefix = settings.wrapperPrefix ∧
          other.delegated = settings.delegated ∧
          (∀ wrapper ∈ wrappers, otherCatalog.wrapper wrapper.name = .ok wrapper) ∧
          ∀ name ∈ settings.delegated, ∃ library otherLibrary,
            catalog.eligible name = .ok library ∧
            otherCatalog.eligible name = .ok otherLibrary ∧
            Signature.codePrefix library.signature =
              Signature.codePrefix otherLibrary.signature := by
  obtain ⟨wrappers, hwraps, hread⟩ := h.readRuntime?_runtime
  have hset := h.readCompiler?_compiler
  refine ⟨wrappers, hread, hwraps.names_eq, hwraps.found, hset, ?_, ?_, ?_⟩
  · rw [hwraps.names_eq, Settings.listedNames]
  · intro other otherCatalog otherTexts hother hsame
    have hotherSet := hother.readCompiler?_compiler
    rw [hsame, hset] at hotherSet
    have hpair := Prod.mk.inj (Option.some.inj hotherSet)
    exact ⟨hpair.1.symm, hpair.2.symm⟩
  · intro other otherCatalog otherTexts hother hsame
    obtain ⟨otherWrappers, hotherWraps, hotherRead⟩ := hother.readRuntime?_runtime
    rw [hsame, hread] at hotherRead
    obtain ⟨hprefixes, rfl⟩ := Prod.mk.inj (Option.some.inj hotherRead)
    refine ⟨hprefixes.symm, ?_, hotherWraps.found, ?_⟩
    · rw [← hotherWraps.names_eq, hwraps.names_eq]
    · intro name hname
      rw [← hwraps.names_eq] at hname
      obtain ⟨wrapper, hwrapper, rfl⟩ := List.mem_map.mp hname
      exact codePrefix_eq_of_wrapper (hwraps.found wrapper hwrapper)
        (hotherWraps.found wrapper hwrapper)

end Rendered

def cabsSettings : Settings where
  delegated := ["cabs"]
  rewritten := ["cabsf"]
  wrapperPrefix := "chpl_"

theorem headers_agree_cabs :
    Rendered cabsSettings cabsCatalog (cabsSettings.textsOf [cabsWrapper]) ∧
      ∃ wrappers,
        readRuntime? (cabsSettings.textsOf [cabsWrapper]).runtime.toList =
          some ("chpl_", wrappers) ∧
        wrappers.map Wrapper.name = ["cabs"] ∧
        readCompiler? (cabsSettings.textsOf [cabsWrapper]).compiler.toList =
          some ("chpl_", ["cabsf", "cabs"]) := by
  have hrendered : Rendered cabsSettings cabsCatalog (cabsSettings.textsOf [cabsWrapper]) :=
    rendered_cabsCatalog (by decide) rfl
  obtain ⟨wrappers, hruntime, hnames, -, hcompiler, -⟩ := Rendered.headers_agree hrendered
  exact ⟨hrendered, wrappers, hruntime, hnames, hcompiler⟩

end BuiltinWrappers
