import BuiltinWrappers.Proofs.Generation.AllOrNothing
import BuiltinWrappers.Proofs.Program.EarliestFault
import BuiltinWrappers.Proofs.Settings.Written

/-!
# Messages for the user

What a run tells the user stays on one line, whatever the input and the settings
file hold.  The names in a message are identifiers, as the settings were checked,
and a signature is quoted.
-/

namespace BuiltinWrappers

def OneLine (text : String) : Prop := '\n' ∉ text.toList

theorem oneLine_append {first second : String} :
    OneLine (first ++ second) ↔ OneLine first ∧ OneLine second := by
  simp [OneLine]

theorem oneLine_of_isIdentifier {name : String} (h : isIdentifier name) : OneLine name :=
  not_mem_of_isIdentifier h (by decide)

/-! ## Quoted texts -/

namespace Text

theorem lineFeed_not_mem_toDigits (number : Nat) : '\n' ∉ Nat.toDigits 16 number := by
  induction number using Nat.strong_induction_on with
  | h number ih =>
      rw [Nat.toDigits_eq_if (by decide)]
      split
      · simp
      next hlarge =>
        have hfront := ih (number / 16) (by omega)
        simp [hfront]

theorem lineFeed_not_mem_quotedCharacter (character : Char) :
    '\n' ∉ quotedCharacter character := by
  unfold quotedCharacter
  split_ifs with hquote hescape hfeed
  case neg => simp [codePointEscape, lineFeed_not_mem_toDigits]
  all_goals first | decide | simpa [eq_comm] using hfeed

theorem oneLine_quoted (text : String) : OneLine (quoted text) := by
  have hcharacters : ∀ character ∈ text.toList, '\n' ∉ quotedCharacter character :=
    fun character _ => lineFeed_not_mem_quotedCharacter character
  simpa [OneLine, quoted] using hcharacters

end Text

/-! ## Obstacles and faults -/

theorem oneLine_builtinName {name : String} (h : OneLine name) : OneLine (builtinName name) :=
  oneLine_append.mpr ⟨by unfold OneLine; decide, h⟩

theorem Catalog.oneLine_obstacle {catalog : Catalog} {name : String} {obstacle : Obstacle}
    (hname : OneLine name) (h : catalog.wrapper name = .error obstacle) :
    OneLine obstacle.message := by
  have hbuiltin := oneLine_builtinName hname
  have hconstant {text : String} (htext : '\n' ∉ text.toList) : OneLine text := htext
  rcases wrapper_eq_error_iff.mp h with heligible | ⟨library, -, -, rfl⟩
  · rcases eligible_eq_error_iff.mp heligible with ⟨-, rfl⟩ | ⟨library, -, hobstacle⟩
    · exact hconstant (by decide)
    rcases hobstacle with ⟨-, rfl⟩ | ⟨-, ⟨-, rfl⟩ | ⟨builtin, -, -, rfl⟩⟩
    · exact hconstant (by decide)
    · exact oneLine_append.mpr ⟨hbuiltin, hconstant (by decide)⟩
    · exact oneLine_append.mpr ⟨hbuiltin, hconstant (by decide)⟩
  · exact oneLine_append.mpr ⟨oneLine_append.mpr
      ⟨hconstant (by decide), Text.oneLine_quoted library.signature⟩, hconstant (by decide)⟩

theorem oneLine_notWrappable {name : String} {obstacle : Obstacle} (hname : OneLine name)
    (hobstacle : OneLine obstacle.message) :
    OneLine (Fault.notWrappable name obstacle).message := by
  have hfront : OneLine "Cannot generate wrapper for " := by
    unfold OneLine
    decide
  have hcolon : OneLine ": " := by
    unfold OneLine
    decide
  exact oneLine_append.mpr ⟨oneLine_append.mpr
    ⟨oneLine_append.mpr ⟨hfront, hname⟩, hcolon⟩, hobstacle⟩

/-! ## Faults that concern the user -/

theorem FirstUnwrapped.oneLine {catalog : Catalog} {names : List String} {fault : Fault}
    (h : FirstUnwrapped catalog names fault) (hnames : ∀ name ∈ names, isIdentifier name) :
    OneLine fault.message := by
  obtain ⟨before, name, after, rfl, -, hfault⟩ := h
  obtain ⟨obstacle, hobstacle, rfl⟩ := Catalog.wrapperText_eq_error_iff.mp hfault
  have hname := oneLine_of_isIdentifier (hnames name (by simp))
  exact oneLine_notWrappable hname (Catalog.oneLine_obstacle hname hobstacle)

theorem Settings.check_of_ofFile {host : Host} {path : String} {settings : Settings}
    (h : ofFile host path = .ok settings) : settings.check = .ok () := by
  unfold ofFile at h
  split at h
  · contradiction
  · unfold ofText at h
    split at h
    · contradiction
    · obtain ⟨overrides, -, -, hcheck⟩ := ofTable_eq_ok_iff.mp h
      exact hcheck

namespace Invocation

variable {invocation : Invocation} {host : Host} {fault : Fault}

theorem HasSettings.check_eq {settings : Settings} (h : invocation.HasSettings host settings) :
    settings.check = .ok () := by
  cases h with
  | default => exact Settings.check_default
  | file _ hfile => exact Settings.check_of_ofFile hfile

theorem isIdentifier_of_settings {settings : Settings}
    (h : invocation.settings host = .ok settings) :
    ∀ name ∈ settings.delegated, isIdentifier name := by
  rcases invocation.exists_fileFault_or_hasSettings host with
    ⟨path, fault, hpath, hfault⟩ | ⟨found, hfound⟩
  · rw [settings_of_fileFault hpath hfault] at h
    contradiction
  · rw [hfound.settings_eq] at h
    cases hroot : findRoot invocation.root host with
    | error fault => simp [hroot, Except.map] at h
    | ok root =>
        rw [hroot] at h
        obtain rfl := Except.ok.inj h
        intro name hname
        exact (Settings.check_eq_ok_iff.mp hfound.check_eq).2 name (List.mem_append_right _ hname)

theorem not_concernsUser_of_findRoot {explicit : Option String}
    (h : findRoot explicit host = .error fault) : fault.concernsUser = false := by
  unfold findRoot at h
  split at h
  · contradiction
  · split at h
    · rw [← Except.error.inj h]
      rfl
    · split at h
      · contradiction
      · rw [← Except.error.inj h]
        rfl

theorem not_concernsUser_of_settings (h : invocation.settings host = .error fault) :
    fault.concernsUser = false := by
  rcases invocation.exists_fileFault_or_hasSettings host with
    ⟨path, found, hpath, hfault⟩ | ⟨settings, hsettings⟩
  · rw [settings_of_fileFault hpath hfault] at h
    obtain rfl := Except.error.inj h
    cases hfault <;> rfl
  · rw [hsettings.settings_eq] at h
    cases hroot : findRoot invocation.root host with
    | ok root => simp [hroot, Except.map] at h
    | error found =>
        rw [hroot] at h
        obtain rfl := Except.error.inj h
        exact not_concernsUser_of_findRoot hroot

end Invocation

theorem HeaderTexts.of_write_error {texts : HeaderTexts} {root : String} {hook : Hook}
    {host after : Host} {fault : Fault} (h : texts.write root hook host = (.error fault, after)) :
    (∃ cause, fault = .inputOutput cause) ∧
      (after = host ∨ texts.writeOne root .runtime host = .ok after) := by
  cases hfirst : texts.writeOne root .runtime host with
  | error cause =>
      rw [write_of_runtime_error hfirst] at h
      obtain ⟨hfault, rfl⟩ := Prod.mk.inj h
      exact ⟨⟨cause, (Except.error.inj hfault).symm⟩, .inl rfl⟩
  | ok first =>
      cases hsecond : texts.writeOne root .compiler first with
      | error cause =>
          rw [write_of_compiler_error hfirst hsecond] at h
          obtain ⟨hfault, rfl⟩ := Prod.mk.inj h
          exact ⟨⟨cause, (Except.error.inj hfault).symm⟩, .inr rfl⟩
      | ok second => simp [write_of_ok hfirst hsecond] at h

theorem Settings.of_generate_error {settings : Settings} {input : String} {hook : Hook}
    {host after : Host} {fault : Fault}
    (h : settings.generate input hook host = (.error fault, after)) :
    (settings.prepare input host = .error fault ∧ after = host) ∨
      ∃ texts : HeaderTexts, texts.write settings.root hook host = (.error fault, after) := by
  cases hprepare : settings.prepare input host with
  | error found =>
      rw [generate_of_prepare_error hprepare] at h
      obtain ⟨hfault, rfl⟩ := Prod.mk.inj h
      obtain rfl := Except.error.inj hfault
      exact .inl ⟨rfl, rfl⟩
  | ok prepared =>
      obtain ⟨catalog, texts⟩ := prepared
      rw [generate_of_prepare_ok hprepare] at h
      rcases hwrite : texts.write settings.root hook host with ⟨found | files, last⟩
      · rw [hwrite] at h
        obtain ⟨hfault, rfl⟩ := Prod.mk.inj h
        exact .inr ⟨texts, by rw [hwrite, Except.error.inj hfault]⟩
      · simp [hwrite, Except.map] at h

theorem Settings.oneLine_of_generate {settings : Settings} {input : String} {hook : Hook}
    {host after : Host} {fault : Fault}
    (hnames : ∀ name ∈ settings.delegated, isIdentifier name)
    (h : settings.generate input hook host = (.error fault, after)) (huser : fault.concernsUser) :
    OneLine fault.message ∧ after = host := by
  rcases of_generate_error h with ⟨hprepare, rfl⟩ | ⟨texts, hwrite⟩
  · rcases prepare_eq_error_iff.mp hprepare with ⟨cause, -, rfl⟩ | ⟨text, -, hrender⟩
    · contradiction
    · exact ⟨(headerTexts_eq_error_iff.mp hrender).oneLine hnames, rfl⟩
  · obtain ⟨⟨cause, rfl⟩, -⟩ := HeaderTexts.of_write_error hwrite
    contradiction

theorem Invocation.oneLine_of_runWith {license : License} {invocation : Invocation}
    {host after : Host} {fault : Fault}
    (h : invocation.runWith license host = (.error fault, after)) (huser : fault.concernsUser) :
    OneLine fault.message ∧ after = host := by
  unfold runWith at h
  split at h
  · obtain ⟨hfault, rfl⟩ := Prod.mk.inj h
    obtain rfl := Except.error.inj hfault
    exact ⟨by unfold OneLine; decide, rfl⟩
  · split at h
    next found hsettings =>
      obtain rfl := Except.error.inj (Prod.mk.inj h).1
      simp [not_concernsUser_of_settings hsettings] at huser
    next settings hsettings =>
      exact Settings.oneLine_of_generate (isIdentifier_of_settings hsettings) h huser

end BuiltinWrappers
