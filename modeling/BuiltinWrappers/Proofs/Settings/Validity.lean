import BuiltinWrappers.Fault
import BuiltinWrappers.Proofs.Catalog.Declaring

/-!
# Valid settings

The check of settings accepts exactly those that hold C identifiers only, and
its message quotes the first text that is none.  Every name in accepted settings
can be put behind the wrapper prefix and behind that of the builtins, and can be
declared, so some source makes all listed names eligible for a wrapper.
-/

namespace BuiltinWrappers

/-! ## The first text that is no identifier -/

namespace Settings

/--
The first text of the settings that is no identifier, and what messages call it.
The prefix comes before the delegated names, and these before the rewritten ones.
-/
inductive FirstInvalid (settings : Settings) : (kind text : String) → Prop
  | wrapperPrefix (hfront : ¬CIdentifier settings.wrapperPrefix) :
      FirstInvalid settings "wrapper_prefix" settings.wrapperPrefix
  | builtinName {before after : List String} {name : String}
      (hfront : CIdentifier settings.wrapperPrefix)
      (hnames : settings.delegated ++ settings.rewritten = before ++ name :: after)
      (hbefore : ∀ earlier ∈ before, CIdentifier earlier) (hname : ¬CIdentifier name) :
      FirstInvalid settings "builtin name" name

theorem FirstInvalid.check_eq_error {settings : Settings} {kind text : String}
    (h : settings.FirstInvalid kind text) :
    ∃ fault, settings.check = .error fault ∧
      (Fault.settings fault).message = "Configuration error: " ++
        (kind ++ " " ++ Text.quoted text ++ " is not a valid C identifier") := by
  cases h with
  | wrapperPrefix hfront =>
      rw [← isIdentifier_iff_cIdentifier] at hfront
      exact ⟨_, by rw [check, if_neg hfront], rfl⟩
  | @builtinName before after _ hfront hnames hbefore hname =>
      simp only [← isIdentifier_iff_cIdentifier] at hfront hbefore hname
      have hfind : (settings.delegated ++ settings.rewritten).find? (!isIdentifier ·) =
          some text := by
        rw [List.find?_eq_some_iff_append]
        exact ⟨by simpa using hname, before, after, hnames, by simpa using hbefore⟩
      exact ⟨_, by rw [check, if_pos hfront, hfind], rfl⟩

theorem exists_firstInvalid {settings : Settings} (h : settings.check ≠ .ok ()) :
    ∃ kind text, settings.FirstInvalid kind text := by
  by_cases hfront : CIdentifier settings.wrapperPrefix
  · have hprefixed := isIdentifier_iff_cIdentifier.mpr hfront
    cases hfind : (settings.delegated ++ settings.rewritten).find? (!isIdentifier ·) with
    | none => exact absurd (by rw [check, if_pos hprefixed, hfind]) h
    | some name =>
        obtain ⟨hname, before, after, hnames, hbefore⟩ := List.find?_eq_some_iff_append.mp hfind
        refine ⟨_, _, .builtinName hfront hnames ?_ ?_⟩
        · simpa [isIdentifier_iff_cIdentifier] using hbefore
        · simpa [← isIdentifier_iff_cIdentifier] using hname
  · exact ⟨_, _, .wrapperPrefix hfront⟩

/-! ## The check -/

/--
The check accepts the settings that hold C identifiers only, and otherwise
quotes the first text that is none.  What it accepts can be used: each name can
stand behind both prefixes and be declared, all names in one source.
-/
theorem check_exact_and_sufficient (settings : Settings) :
    (settings.check = .ok () ↔
      CIdentifier settings.wrapperPrefix ∧ (∀ name ∈ settings.delegated, CIdentifier name) ∧
        ∀ name ∈ settings.rewritten, CIdentifier name) ∧
    (∀ message, (∃ fault, settings.check = .error fault ∧
        (Fault.settings fault).message = message) ↔
      ∃ kind text, settings.FirstInvalid kind text ∧
        message = "Configuration error: " ++
          (kind ++ " " ++ Text.quoted text ++ " is not a valid C identifier")) ∧
    (settings.check = .ok () →
      (∀ name ∈ settings.listedNames,
        CIdentifier (settings.wrapperPrefix ++ name) ∧ CIdentifier ("__builtin_" ++ name) ∧
          Declaration.AcceptsName name) ∧
      ∃ text, ∀ name ∈ settings.listedNames, ∃ library,
        (Catalog.ofText text).eligible name = .ok library) := by
  refine ⟨?_, ?_, ?_⟩
  · rw [check_eq_ok_iff, listedNames, List.forall_mem_append]
    simp only [isIdentifier_iff_cIdentifier]
    exact and_congr_right fun _ => and_comm
  · intro message
    constructor
    · rintro ⟨fault, hfault, rfl⟩
      have hrejected : settings.check ≠ .ok () := by simp [hfault]
      obtain ⟨kind, text, hfirst⟩ := exists_firstInvalid hrejected
      obtain ⟨found, hfound, hmessage⟩ := hfirst.check_eq_error
      obtain rfl : fault = found := Except.error.inj (hfault.symm.trans hfound)
      exact ⟨kind, text, hfirst, hmessage⟩
    · rintro ⟨kind, text, hfirst, rfl⟩
      exact hfirst.check_eq_error
  · intro hvalid
    obtain ⟨hfront, hnames⟩ := check_eq_ok_iff.mp hvalid
    refine ⟨fun name hname => ?_, Catalog.exists_text_eligible hnames⟩
    have hidentifier := hnames name hname
    have hpasted := isIdentifier_append hfront fun _ => isIdentifierCharacter_of_mem hidentifier
    exact ⟨isIdentifier_iff_cIdentifier.mp hpasted,
      isIdentifier_iff_cIdentifier.mp (isIdentifier_builtinName hidentifier),
      Declaration.acceptsName_of_isIdentifier hidentifier⟩

def nestedSettings : Settings where
  delegated := ["cabs", "__builtin_cabs"]
  rewritten := ["_9", "cabs"]
  wrapperPrefix := "w_"

/-- Two delegated names and a rewritten one are no identifiers. -/
def rejectedSettings : Settings where
  delegated := ["cabs", "9\n", ""]
  rewritten := ["a-b"]
  wrapperPrefix := "w_"

theorem firstInvalid_rejectedSettings : rejectedSettings.FirstInvalid "builtin name" "9\n" := by
  have hfront : CIdentifier rejectedSettings.wrapperPrefix :=
    isIdentifier_iff_cIdentifier.mp (by decide)
  have hcabs : CIdentifier "cabs" := isIdentifier_iff_cIdentifier.mp (by decide)
  have hname : ¬CIdentifier "9\n" := mt isIdentifier_iff_cIdentifier.mpr (by decide)
  have hnames : rejectedSettings.delegated ++ rejectedSettings.rewritten =
      ["cabs"] ++ "9\n" :: ["", "a-b"] := rfl
  exact .builtinName hfront hnames (List.forall_mem_singleton.mpr hcabs) hname

theorem check_exact_and_sufficient_nestedSettings :
    (∃ fault, rejectedSettings.check = .error fault ∧ (Fault.settings fault).message =
      "Configuration error: builtin name \"9\\n\" is not a valid C identifier") ∧
    nestedSettings.check = .ok () ∧ "cabs" ∈ nestedSettings.listedNames ∧
      "__builtin_cabs" ∈ nestedSettings.listedNames ∧
      CIdentifier (nestedSettings.wrapperPrefix ++ "cabs") ∧
      CIdentifier ("__builtin_" ++ "cabs") ∧ Declaration.AcceptsName "cabs" ∧
      ∃ text, (∃ library, (Catalog.ofText text).eligible "cabs" = .ok library) ∧
        ∃ library, (Catalog.ofText text).eligible "__builtin_cabs" = .ok library := by
  have hvalid : nestedSettings.check = .ok () := by decide
  have hname : "cabs" ∈ nestedSettings.listedNames := by decide
  have hbuiltin : "__builtin_cabs" ∈ nestedSettings.listedNames := by decide
  obtain ⟨-, hrejects, -⟩ := check_exact_and_sufficient rejectedSettings
  have hmessage := (hrejects _).mpr ⟨_, _, firstInvalid_rejectedSettings, rfl⟩
  have hquoted : Text.quoted "9\n" = "\"9\\n\"" := by decide +kernel
  rw [hquoted] at hmessage
  obtain ⟨-, -, hsuffices⟩ := check_exact_and_sufficient nestedSettings
  obtain ⟨hused, text, heligible⟩ := hsuffices hvalid
  obtain ⟨hpasted, hprefixed, haccepted⟩ := hused "cabs" hname
  exact ⟨hmessage, hvalid, hname, hbuiltin, hpasted, hprefixed, haccepted, text,
    heligible "cabs" hname, heligible "__builtin_cabs" hbuiltin⟩

end Settings

end BuiltinWrappers
