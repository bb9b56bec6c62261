import BuiltinWrappers.Generation
import BuiltinWrappers.Proofs.Steps

/-!
# The calls of a hook

A pass calls its hook on both headers once they are written, and not at all if it
fails.  Nothing that the hook does comes back to the pass: what it reports is
settled before the first call.
-/

namespace BuiltinWrappers

/-! ## Calls -/

/--
Whatever the hook does, the outcome is that of a pass without a hook, and the
host is what the calls on these paths, one after the other, make of it.
-/
def HookCalls {α : Type} (pass : Hook → Except Fault α × Host) (paths : List String) : Prop :=
  ∀ hook, pass hook =
    ((pass .none).1, paths.foldl (fun host path => hook path host) (pass .none).2)

def Hook.tracing : Hook := fun path host =>
  { host with workingDirectory := path :: host.workingDirectory }

theorem foldl_tracing (paths : List String) (host : Host) :
    (paths.foldl (fun host path => Hook.tracing path host) host).workingDirectory =
      paths.reverse ++ host.workingDirectory := by
  induction paths generalizing host with
  | nil => rfl
  | cons path paths ih =>
      rw [List.foldl_cons, ih]
      simp [Hook.tracing]

namespace HookCalls

variable {α : Type} {pass : Hook → Except Fault α × Host} {paths others : List String}

theorem unique (h : HookCalls pass paths) (hother : HookCalls pass others) :
    others = paths := by
  have hsame := (hother .tracing).symm.trans (h .tracing)
  have htraces := congrArg (fun outcome => outcome.2.workingDirectory) hsame
  simp only [foldl_tracing] at htraces
  exact List.reverse_inj.mp (List.append_cancel_right htraces)

theorem iff_eq (h : HookCalls pass paths) : HookCalls pass others ↔ others = paths :=
  ⟨h.unique, fun heq => heq ▸ h⟩

theorem of_const {outcome : Except Fault α × Host} (h : ∀ hook, pass hook = outcome) :
    HookCalls pass [] := by
  intro hook
  rw [h hook, h .none]
  rfl

theorem map {β : Type} {change : Except Fault α → Except Fault β}
    (h : HookCalls pass paths) :
    HookCalls (fun hook => (change (pass hook).1, (pass hook).2)) paths := by
  intro hook
  simp only [h hook]

end HookCalls

def callsAfter {α : Type} (root : String) : Except Fault α → List String
  | .error _ => []
  | .ok _ => [Header.runtime.pathIn root, Header.compiler.pathIn root]

theorem callsAfter_map {α β : Type} (root : String) (change : α → β)
    (outcome : Except Fault α) :
    callsAfter root (outcome.map change) = callsAfter root outcome := by
  cases outcome with
  | error fault => rfl
  | ok value => rfl

/-! ## Writing -/

namespace HeaderTexts

variable {texts : HeaderTexts} {root : String} {host first second : Host}
  {cause : SystemFault}

theorem write_of_runtime_error (h : texts.writeOne root .runtime host = .error cause)
    (hook : Hook) : texts.write root hook host = (.error (.inputOutput cause), host) := by
  unfold write
  simp only [h]

theorem write_of_compiler_error (hfirst : texts.writeOne root .runtime host = .ok first)
    (h : texts.writeOne root .compiler first = .error cause) (hook : Hook) :
    texts.write root hook host = (.error (.inputOutput cause), first) := by
  unfold write
  simp only [hfirst, h]

theorem write_of_ok (hfirst : texts.writeOne root .runtime host = .ok first)
    (hsecond : texts.writeOne root .compiler first = .ok second) (hook : Hook) :
    texts.write root hook host =
      (.ok [texts.written root .runtime, texts.written root .compiler],
        hook (Header.compiler.pathIn root) (hook (Header.runtime.pathIn root) second)) := by
  unfold write
  simp only [hfirst, hsecond]
  rfl

theorem write_none_eq_ok_iff {files : List WrittenHeader} :
    texts.write root .none host = (.ok files, second) ↔
      files = [texts.written root .runtime, texts.written root .compiler] ∧
        ∃ first, texts.writeOne root .runtime host = .ok first ∧
          texts.writeOne root .compiler first = .ok second := by
  cases hfirst : texts.writeOne root .runtime host with
  | error cause => simp [write_of_runtime_error hfirst]
  | ok first =>
      cases hsecond : texts.writeOne root .compiler first with
      | error cause => simp [write_of_compiler_error hfirst hsecond, hsecond]
      | ok last =>
          simp [write_of_ok hfirst hsecond, hsecond, Hook.none, eq_comm]

theorem hookCalls_write (texts : HeaderTexts) (root : String) (host : Host) :
    HookCalls (texts.write root · host)
      (callsAfter root (texts.write root .none host).1) := by
  cases hfirst : texts.writeOne root .runtime host with
  | error cause =>
      rw [write_of_runtime_error hfirst]
      exact .of_const (write_of_runtime_error hfirst)
  | ok first =>
      cases hsecond : texts.writeOne root .compiler first with
      | error cause =>
          rw [write_of_compiler_error hfirst hsecond]
          exact .of_const (write_of_compiler_error hfirst hsecond)
      | ok second =>
          intro hook
          simp only [write_of_ok hfirst hsecond]
          rfl

end HeaderTexts

/-! ## The whole pass -/

namespace Catalog

variable {host : Host} {path : String}

theorem ofFile_eq_ok_iff {catalog : Catalog} :
    ofFile host path = .ok catalog ↔
      ∃ text, host.readText path = .ok text ∧ catalog = .ofText text.toList := by
  unfold ofFile
  cases host.readText path with
  | error cause => simp
  | ok text => simp [eq_comm]

theorem ofFile_eq_error_iff {fault : Fault} :
    ofFile host path = .error fault ↔
      ∃ cause, host.readText path = .error cause ∧ fault = .unreadableInput path cause := by
  unfold ofFile
  cases host.readText path with
  | error cause => simp [eq_comm]
  | ok text => simp

end Catalog

namespace Settings

variable {settings : Settings} {input : String} {host : Host} {catalog : Catalog}
  {texts : HeaderTexts} {fault : Fault}

theorem prepare_eq_ok_iff :
    settings.prepare input host = .ok (catalog, texts) ↔
      ∃ text, host.readText input = .ok text ∧ catalog = .ofText text.toList ∧
        settings.headerTexts catalog = .ok texts := by
  simp only [prepare, bind_eq_ok_iff, pure_eq_ok_iff, Catalog.ofFile_eq_ok_iff, Prod.mk.injEq]
  constructor
  · rintro ⟨_, ⟨text, hread, rfl⟩, _, htexts, rfl, rfl⟩
    exact ⟨text, hread, rfl, htexts⟩
  · rintro ⟨text, hread, rfl, htexts⟩
    exact ⟨_, ⟨text, hread, rfl⟩, texts, htexts, rfl, rfl⟩

theorem prepare_eq_error_iff :
    settings.prepare input host = .error fault ↔
      (∃ cause, host.readText input = .error cause ∧ fault = .unreadableInput input cause) ∨
        ∃ text, host.readText input = .ok text ∧
          settings.headerTexts (.ofText text.toList) = .error fault := by
  simp only [prepare, bind_eq_error_iff, pure_ne_error, Catalog.ofFile_eq_ok_iff,
    Catalog.ofFile_eq_error_iff, and_false, exists_false, or_false]
  apply or_congr_right
  constructor
  · rintro ⟨_, ⟨text, hread, rfl⟩, hfault⟩
    exact ⟨text, hread, hfault⟩
  · rintro ⟨text, hread, hfault⟩
    exact ⟨_, ⟨text, hread, rfl⟩, hfault⟩

theorem generate_of_prepare_error (h : settings.prepare input host = .error fault)
    (hook : Hook) : settings.generate input hook host = (.error fault, host) := by
  rw [generate, h]

theorem generate_of_prepare_ok (h : settings.prepare input host = .ok (catalog, texts))
    (hook : Hook) :
    settings.generate input hook host =
      ((texts.write settings.root hook host).1.map fun files =>
          ⟨files, catalog.size, texts.wrapperCount⟩,
        (texts.write settings.root hook host).2) := by
  simp only [generate, h]
  rcases texts.write settings.root hook host with ⟨_ | files, after⟩
  · rfl
  · rfl

theorem exists_of_generate_none {report : Report} {after : Host}
    (h : settings.generate input .none host = (.ok report, after)) :
    ∃ catalog texts, settings.prepare input host = .ok (catalog, texts) ∧
      texts.write settings.root .none host = (.ok report.files, after) ∧
      report.scanned = catalog.size ∧ report.wrappers = texts.wrapperCount := by
  cases hprepare : settings.prepare input host with
  | error fault =>
      rw [generate_of_prepare_error hprepare] at h
      simp at h
  | ok prepared =>
      obtain ⟨catalog, texts⟩ := prepared
      refine ⟨catalog, texts, rfl, ?_⟩
      rw [generate_of_prepare_ok hprepare] at h
      rcases hwrite : texts.write settings.root .none host with ⟨fault | files, last⟩
      · simp [hwrite, Except.map] at h
      · simp only [hwrite, Except.map, Prod.mk.injEq, Except.ok.injEq] at h
        obtain ⟨rfl, rfl⟩ := h
        exact ⟨rfl, rfl, rfl⟩

theorem hookCalls_generate (settings : Settings) (input : String) (host : Host) :
    HookCalls (settings.generate input · host)
      (callsAfter settings.root (settings.generate input .none host).1) := by
  cases hprepare : settings.prepare input host with
  | error fault =>
      rw [generate_of_prepare_error hprepare]
      exact .of_const (generate_of_prepare_error hprepare)
  | ok prepared =>
      obtain ⟨catalog, texts⟩ := prepared
      simp only [generate_of_prepare_ok hprepare, callsAfter_map]
      exact (texts.hookCalls_write settings.root host).map

/--
A hook changes nothing but the host that it gets.  A pass that fails calls it on
nothing; a pass that succeeds has written both headers, then calls it on the
runtime header and then on the compiler header, and reports the same whatever
the calls do.
-/
theorem generate_hook (settings : Settings) (input : String) (host : Host) :
    (∀ fault after, settings.generate input .none host = (.error fault, after) →
      (∀ hook, settings.generate input hook host = (.error fault, after)) ∧
      ∀ paths, HookCalls (settings.generate input · host) paths ↔ paths = []) ∧
    ∀ report after, settings.generate input .none host = (.ok report, after) →
      (∀ hook, settings.generate input hook host =
        (.ok report, hook (Header.compiler.pathIn settings.root)
          (hook (Header.runtime.pathIn settings.root) after))) ∧
      (∀ paths, HookCalls (settings.generate input · host) paths ↔
        paths = [Header.runtime.pathIn settings.root, Header.compiler.pathIn settings.root]) ∧
      ∃ catalog texts first, settings.prepare input host = .ok (catalog, texts) ∧
        texts.writeOne settings.root .runtime host = .ok first ∧
        texts.writeOne settings.root .compiler first = .ok after := by
  have hcalls := settings.hookCalls_generate input host
  constructor
  · intro fault after hnone
    rw [hnone] at hcalls
    refine ⟨fun hook => ?_, fun _ => hcalls.iff_eq⟩
    refine (hcalls hook).trans ?_
    simp only [hnone]
    rfl
  · intro report after hnone
    rw [hnone] at hcalls
    obtain ⟨catalog, texts, hprepare, hwrite, -⟩ := exists_of_generate_none hnone
    obtain ⟨-, first, hfirst, hsecond⟩ := HeaderTexts.write_none_eq_ok_iff.mp hwrite
    refine ⟨fun hook => ?_, fun _ => hcalls.iff_eq,
      catalog, texts, first, hprepare, hfirst, hsecond⟩
    refine (hcalls hook).trans ?_
    simp only [hnone]
    rfl

end Settings

end BuiltinWrappers
