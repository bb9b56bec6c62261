import BuiltinWrappers.Proofs.Generation.AllOrNothing
import BuiltinWrappers.Proofs.Generation.HookCalls
import BuiltinWrappers.Proofs.Host.Built
import BuiltinWrappers.Run

/-!
# The earliest fault of a run

A run takes its stages in a fixed order: the input is given, the settings file is
good, a root is found, the input can be read, and every delegated name has a
wrapper.  The first stage that fails ends the run before anything is written and
before a hook is called.  Its fault is reported, unless the environment file
cannot be stored while the root is looked for.
-/

namespace BuiltinWrappers

/-! ## The stages -/

/-- What is wrong with a settings file. -/
inductive Settings.FileFault (host : Host) (path : String) : Fault → Prop
  | unreadable {cause : SystemFault} (hread : host.readText path = .error cause) :
      FileFault host path (.inputOutput cause)
  | malformed {text : String} (hread : host.readText path = .ok text)
      (hdocument : Toml.document? text.toList = none) :
      FileFault host path (.document .malformed)
  | schema {text : String} {table : Toml.Table} {cause : SchemaFault}
      (hread : host.readText path = .ok text)
      (hdocument : Toml.document? text.toList = some table)
      (hschema : Overrides.ofTable table = .error cause) :
      FileFault host path (.document (.schema cause))
  | invalid {text : String} {table : Toml.Table} {overrides : Overrides}
      {cause : SettingsFault} (hread : host.readText path = .ok text)
      (hdocument : Toml.document? text.toList = some table)
      (hschema : Overrides.ofTable table = .ok overrides)
      (hcheck : (({} : Settings).withOverrides overrides).check = .error cause) :
      FileFault host path (.settings cause)

theorem Settings.FileFault.of_ofFile {host : Host} {path : String} {fault : Fault}
    (h : Settings.ofFile host path = .error fault) : Settings.FileFault host path fault := by
  cases hread : host.readText path with
  | error cause =>
      simp only [ofFile, hread, Except.error.injEq] at h
      exact h ▸ .unreadable hread
  | ok text =>
      cases hdocument : Toml.document? text.toList with
      | none =>
          simp only [ofFile, hread, ofText, hdocument, Except.error.injEq] at h
          exact h ▸ .malformed hread hdocument
      | some table =>
          simp only [ofFile, hread, ofText, hdocument, ofTable] at h
          cases hschema : Overrides.ofTable table with
          | error cause =>
              simp only [hschema, Except.error.injEq] at h
              exact h ▸ .schema hread hdocument hschema
          | ok overrides =>
              simp only [hschema] at h
              cases hcheck : (({} : Settings).withOverrides overrides).check with
              | error cause =>
                  simp only [hcheck, Except.error.injEq] at h
                  exact h ▸ .invalid hread hdocument hschema hcheck
              | ok _ => simp [hcheck] at h

theorem Settings.FileFault.ofFile_eq {host : Host} {path : String} {fault : Fault}
    (h : Settings.FileFault host path fault) : Settings.ofFile host path = .error fault := by
  cases h with
  | unreadable hread => simp only [ofFile, hread]
  | malformed hread hdocument => simp only [ofFile, hread, ofText, hdocument]
  | schema hread hdocument hschema =>
      simp only [ofFile, hread, ofText, hdocument, ofTable, hschema]
  | invalid hread hdocument hschema hcheck =>
      simp only [ofFile, hread, ofText, hdocument, ofTable, hschema, hcheck]

namespace Invocation

/-- The settings that an invocation asks for, the root aside. -/
inductive HasSettings (invocation : Invocation) (host : Host) : Settings → Prop
  | default (hpath : invocation.settingsFile = none) : HasSettings invocation host {}
  | file {path : String} {settings : Settings} (hpath : invocation.settingsFile = some path)
      (hfile : Settings.ofFile host path = .ok settings) : HasSettings invocation host settings

inductive FindsRoot (invocation : Invocation) (host : Host) : String → Prop
  | given {root : String} (hroot : invocation.root = some root) :
      FindsRoot invocation host root
  | inherited {environment : Environment} {root : String} (hroot : invocation.root = none)
      (henvironment : EnvironmentFile.environment? host = some environment)
      (hset : environment[rootVariable]? = some root) : FindsRoot invocation host root

/-- Every stage succeeds, so both headers can be produced in memory. -/
def CanRender (invocation : Invocation) (host : Host) : Prop :=
  ∃ input settings root text, invocation.input = some input ∧
    invocation.HasSettings host settings ∧ invocation.FindsRoot host root ∧
    host.readText input = .ok text ∧
    ∀ name ∈ settings.delegated, ∃ rendered,
      (Catalog.ofText text.toList).wrapperText name = .ok rendered

/-- The fault of the first stage that fails, whatever would come of the stages behind it. -/
inductive EarliestFault (invocation : Invocation) (host : Host) : Fault → Prop
  | missingInput (hinput : invocation.input = none) :
      EarliestFault invocation host .missingInput
  | settingsFile {input path : String} {fault : Fault} (hinput : invocation.input = some input)
      (hpath : invocation.settingsFile = some path)
      (hfault : Settings.FileFault host path fault) : EarliestFault invocation host fault
  | root {input : String} {settings : Settings} (hinput : invocation.input = some input)
      (hsettings : invocation.HasSettings host settings)
      (hroot : ∀ root, ¬invocation.FindsRoot host root) :
      EarliestFault invocation host (.unsetVariable rootVariable)
  | input {input root : String} {settings : Settings} {cause : SystemFault}
      (hinput : invocation.input = some input)
      (hsettings : invocation.HasSettings host settings)
      (hroot : invocation.FindsRoot host root) (hread : host.readText input = .error cause) :
      EarliestFault invocation host (.unreadableInput input cause)
  | wrapper {input root text name : String} {settings : Settings} {obstacle : Obstacle}
      (hinput : invocation.input = some input)
      (hsettings : invocation.HasSettings host settings)
      (hroot : invocation.FindsRoot host root) (hread : host.readText input = .ok text)
      (hfirst : FirstUnwrapped (.ofText text.toList) settings.delegated
        (.notWrappable name obstacle)) :
      EarliestFault invocation host (.notWrappable name obstacle)

/-- No stage before the root fails, and then the environment file cannot be stored. -/
structure StopsAtVariable (invocation : Invocation) (host : Host) : Prop where
  input_given : ∃ input, invocation.input = some input
  has_settings : ∃ settings, invocation.HasSettings host settings
  no_root : invocation.root = none
  spoiled : ∃ content,
    EnvironmentFile.content? host = some content ∧
      EnvironmentFile.Spoiled host.environment (content.toList.splitOn 10)

variable {invocation : Invocation} {host : Host} {fault : Fault}

theorem HasSettings.unique {settings other : Settings}
    (h : invocation.HasSettings host settings) (hother : invocation.HasSettings host other) :
    settings = other := by
  cases h with
  | default hnone =>
      cases hother with
      | default _ => rfl
      | file hpath _ => simp [hnone] at hpath
  | file hpath hfile =>
      cases hother with
      | default hnone => simp [hnone] at hpath
      | file hotherPath hotherFile =>
          obtain rfl := Option.some.inj (hpath.symm.trans hotherPath)
          exact Except.ok.inj (hfile.symm.trans hotherFile)

theorem exists_fileFault_or_hasSettings (invocation : Invocation) (host : Host) :
    (∃ path fault, invocation.settingsFile = some path ∧ Settings.FileFault host path fault) ∨
      ∃ settings, invocation.HasSettings host settings := by
  cases hpath : invocation.settingsFile with
  | none => exact .inr ⟨_, .default hpath⟩
  | some path =>
      cases hfile : Settings.ofFile host path with
      | error fault => exact .inl ⟨path, fault, rfl, .of_ofFile hfile⟩
      | ok settings => exact .inr ⟨settings, .file hpath hfile⟩

theorem HasSettings.not_fileFault {settings : Settings} {path : String}
    (h : invocation.HasSettings host settings) (hpath : invocation.settingsFile = some path) :
    ¬Settings.FileFault host path fault := by
  intro hfault
  cases h with
  | default hnone => simp [hnone] at hpath
  | file hother hfile =>
      obtain rfl := Option.some.inj (hpath.symm.trans hother)
      simp [hfault.ofFile_eq] at hfile

theorem EarliestFault.not_canRender (h : invocation.EarliestFault host fault) :
    ¬invocation.CanRender host := by
  rintro ⟨input, settings, root, text, hinput, hsettings, hroot, hread, hwrapped⟩
  cases h with
  | missingInput hnone => simp [hnone] at hinput
  | settingsFile _ hpath hfault => exact hsettings.not_fileFault hpath hfault
  | root _ _ hnone => exact hnone root hroot
  | input hother _ _ hfails =>
      obtain rfl := Option.some.inj (hinput.symm.trans hother)
      simp [hread] at hfails
  | wrapper hother hotherSettings _ hotherRead hfirst =>
      obtain rfl := Option.some.inj (hinput.symm.trans hother)
      obtain rfl := Except.ok.inj (hread.symm.trans hotherRead)
      obtain rfl := hsettings.unique hotherSettings
      obtain ⟨name, hname, fault, hunwrapped⟩ := exists_firstUnwrapped_iff.mp ⟨_, hfirst⟩
      obtain ⟨rendered, hrendered⟩ := hwrapped name hname
      simp [hrendered] at hunwrapped

theorem exists_earliestFault (h : ¬invocation.CanRender host) :
    ∃ fault, invocation.EarliestFault host fault := by
  -- The stages in order: each either fails, and then is the first, or lets the next one begin.
  rcases hinput : invocation.input with _ | input
  · exact ⟨_, .missingInput hinput⟩
  rcases invocation.exists_fileFault_or_hasSettings host with
    ⟨path, fault, hpath, hfault⟩ | ⟨settings, hsettings⟩
  · exact ⟨fault, .settingsFile hinput hpath hfault⟩
  by_cases hroot : ∀ root, ¬invocation.FindsRoot host root
  · exact ⟨_, .root hinput hsettings hroot⟩
  obtain ⟨root, hroot⟩ := not_forall_not.mp hroot
  rcases hread : host.readText input with cause | text
  · exact ⟨_, .input hinput hsettings hroot hread⟩
  by_cases hwrapped : ∃ name ∈ settings.delegated, ∃ fault,
      (Catalog.ofText text.toList).wrapperText name = .error fault
  · obtain ⟨fault, hfirst⟩ := exists_firstUnwrapped_iff.mpr hwrapped
    obtain ⟨name, obstacle, rfl⟩ := hfirst.eq_notWrappable
    exact ⟨_, .wrapper hinput hsettings hroot hread hfirst⟩
  refine absurd ⟨input, settings, root, text, hinput, hsettings, hroot, hread, ?_⟩ h
  intro name hname
  cases hrendered : (Catalog.ofText text.toList).wrapperText name with
  | error fault => exact absurd ⟨name, hname, fault, hrendered⟩ hwrapped
  | ok rendered => exact ⟨rendered, rfl⟩

/-! ## Runs with any hook -/

def runHooked (invocation : Invocation) (hook : Hook) (host : Host) :
    Except Fault Report × Host :=
  match invocation.input with
  | none => (.error .missingInput, host)
  | some input =>
      match invocation.settings host with
      | .error fault => (.error fault, host)
      | .ok settings => settings.generate input hook host

def ownHook (license : License) (invocation : Invocation) (host : Host) : Hook :=
  match invocation.settings host with
  | .error _ => .none
  | .ok settings => invocation.hook license settings.root host

theorem runWith_eq_runHooked (license : License) (invocation : Invocation) (host : Host) :
    invocation.runWith license host =
      invocation.runHooked (invocation.ownHook license host) host := by
  unfold runWith runHooked ownHook
  cases invocation.input with
  | none => rfl
  | some input =>
      cases invocation.settings host with
      | error fault => rfl
      | ok settings => rfl

/-- Whatever the license, a run ends with a fault, changes nothing and calls no hook. -/
structure LeavesNoTrace (invocation : Invocation) (host : Host) (fault : Fault) : Prop where
  runWith_eq : ∀ license, invocation.runWith license host = (.error fault, host)
  no_calls : ∀ paths, HookCalls (invocation.runHooked · host) paths ↔ paths = []

theorem LeavesNoTrace.of_runHooked
    (h : ∀ hook, invocation.runHooked hook host = (.error fault, host)) :
    invocation.LeavesNoTrace host fault :=
  ⟨fun license => (invocation.runWith_eq_runHooked license host).trans (h _),
    fun _ => (HookCalls.of_const h).iff_eq⟩

/-! ## How a run ends at each stage -/

theorem HasSettings.settings_eq {settings : Settings} (h : invocation.HasSettings host settings) :
    invocation.settings host =
      (findRoot invocation.root host).map fun root => { settings with root } := by
  unfold Invocation.settings
  cases h with
  | default hpath =>
      rw [hpath]
      cases findRoot invocation.root host <;> rfl
  | file hpath hfile =>
      simp only [hpath, hfile]
      cases findRoot invocation.root host <;> rfl

theorem settings_of_fileFault {path : String} (hpath : invocation.settingsFile = some path)
    (h : Settings.FileFault host path fault) : invocation.settings host = .error fault := by
  simp only [Invocation.settings, hpath, h.ofFile_eq]
  rfl

theorem FindsRoot.findRoot_eq {root : String} (h : invocation.FindsRoot host root) :
    findRoot invocation.root host = .ok root := by
  cases h with
  | given hroot => simp only [findRoot, hroot]
  | inherited hroot henvironment hset => simp only [findRoot, hroot, henvironment, hset]

theorem FindsRoot.of_findRoot {root : String}
    (h : findRoot invocation.root host = .ok root) : invocation.FindsRoot host root := by
  unfold findRoot at h
  split at h
  next given hgiven =>
    obtain rfl := Except.ok.inj h
    exact .given hgiven
  next hnone =>
    split at h
    · contradiction
    next environment henvironment =>
      split at h
      next found hset =>
        obtain rfl := Except.ok.inj h
        exact .inherited hnone henvironment hset
      · contradiction

theorem findRoot_of_not_findsRoot (h : ∀ root, ¬invocation.FindsRoot host root) :
    invocation.root = none ∧
      (EnvironmentFile.environment? host = none ∨
        findRoot invocation.root host = .error (.unsetVariable rootVariable)) := by
  cases hroot : invocation.root with
  | some root => exact absurd (.given hroot) (h root)
  | none =>
      refine ⟨rfl, ?_⟩
      cases henvironment : EnvironmentFile.environment? host with
      | none => exact .inl rfl
      | some environment =>
          cases hset : environment[rootVariable]? with
          | some root => exact absurd (.inherited hroot henvironment hset) (h root)
          | none =>
              right
              simp only [findRoot, henvironment, hset]

theorem runHooked_of_findsRoot {input root : String} {settings : Settings}
    (hinput : invocation.input = some input) (hsettings : invocation.HasSettings host settings)
    (hroot : invocation.FindsRoot host root) (hook : Hook) :
    invocation.runHooked hook host = { settings with root }.generate input hook host := by
  simp only [runHooked, hinput, hsettings.settings_eq, hroot.findRoot_eq]
  rfl

theorem runHooked_of_findRoot_error {input : String} {settings : Settings}
    (hinput : invocation.input = some input) (hsettings : invocation.HasSettings host settings)
    (hroot : findRoot invocation.root host = .error fault) (hook : Hook) :
    invocation.runHooked hook host = (.error fault, host) := by
  simp only [runHooked, hinput, hsettings.settings_eq, hroot]
  rfl

theorem EarliestFault.runHooked_eq (h : invocation.EarliestFault host fault)
    (hstop : ¬invocation.StopsAtVariable host) (hook : Hook) :
    invocation.runHooked hook host = (.error fault, host) := by
  cases h with
  | missingInput hinput => simp only [runHooked, hinput]
  | settingsFile hinput hpath hfault =>
      simp only [runHooked, hinput, settings_of_fileFault hpath hfault]
  | root hinput hsettings hunrooted =>
      obtain ⟨hroot, hspoiled | hunset⟩ := findRoot_of_not_findsRoot hunrooted
      · exact absurd ⟨⟨_, hinput⟩, ⟨_, hsettings⟩, hroot,
          EnvironmentFile.environment?_eq_none_iff.mp hspoiled⟩ hstop
      · exact runHooked_of_findRoot_error hinput hsettings hunset hook
  | input hinput hsettings hroot hread =>
      rw [runHooked_of_findsRoot hinput hsettings hroot]
      exact Settings.generate_of_prepare_error
        (Settings.prepare_eq_error_iff.mpr (.inl ⟨_, hread, rfl⟩)) hook
  | wrapper hinput hsettings hroot hread hfirst =>
      rw [runHooked_of_findsRoot hinput hsettings hroot]
      refine Settings.generate_of_prepare_error
        (Settings.prepare_eq_error_iff.mpr (.inr ⟨_, hread, ?_⟩)) hook
      exact Settings.headerTexts_eq_error_iff.mpr hfirst

namespace StopsAtVariable

theorem environment?_eq_none (h : invocation.StopsAtVariable host) :
    EnvironmentFile.environment? host = none :=
  EnvironmentFile.environment?_eq_none_iff.mpr h.spoiled

theorem runHooked_eq (h : invocation.StopsAtVariable host) (hook : Hook) :
    invocation.runHooked hook host = (.error .unstorableVariable, host) := by
  obtain ⟨input, hinput⟩ := h.input_given
  obtain ⟨settings, hsettings⟩ := h.has_settings
  refine runHooked_of_findRoot_error hinput hsettings ?_ hook
  simp only [findRoot, h.no_root, h.environment?_eq_none]

theorem not_findsRoot (h : invocation.StopsAtVariable host) (root : String) :
    ¬invocation.FindsRoot host root := by
  intro hroot
  cases hroot with
  | given hgiven => simp [h.no_root] at hgiven
  | inherited _ henvironment _ => simp [h.environment?_eq_none] at henvironment

theorem earliestFault_iff (h : invocation.StopsAtVariable host) :
    invocation.EarliestFault host fault ↔ fault = .unsetVariable rootVariable := by
  obtain ⟨input, hinput⟩ := h.input_given
  obtain ⟨settings, hsettings⟩ := h.has_settings
  constructor
  · intro hfault
    cases hfault with
    | missingInput hnone => simp [hnone] at hinput
    | settingsFile _ hpath hfile => exact absurd hfile (hsettings.not_fileFault hpath)
    | root => rfl
    | input _ _ hroot => exact absurd hroot (h.not_findsRoot _)
    | wrapper _ _ hroot => exact absurd hroot (h.not_findsRoot _)
  · rintro rfl
    exact .root hinput hsettings h.not_findsRoot

theorem runWith_ne (h : invocation.StopsAtVariable host) (license : License) {after : Host} :
    invocation.runWith license host ≠ (.error (.unsetVariable rootVariable), after) := by
  rw [runWith_eq_runHooked, h.runHooked_eq]
  simp

end StopsAtVariable

theorem EarliestFault.unique {other : Fault} (h : invocation.EarliestFault host fault)
    (hother : invocation.EarliestFault host other) : fault = other := by
  by_cases hstop : invocation.StopsAtVariable host
  · rw [hstop.earliestFault_iff.mp h, hstop.earliestFault_iff.mp hother]
  · have hsame := (h.runHooked_eq hstop .none).symm.trans (hother.runHooked_eq hstop .none)
    exact Except.error.inj (congrArg Prod.fst hsame)

/-! ## The earliest fault is reported -/

/-- Whichever stage is the first to fail, its fault is reported and no trace is left. -/
def ReportsEarliestFault (invocation : Invocation) (host : Host) : Prop :=
  ∀ fault, invocation.EarliestFault host fault → invocation.LeavesNoTrace host fault

/--
If not all stages succeed, one is the first to fail, and the run leaves no trace.
It reports the fault of that stage unless the environment file cannot be stored.
-/
theorem reportsEarliestFault_iff (invocation : Invocation) (host : Host) :
    (¬invocation.CanRender host ↔ ∃ fault, invocation.EarliestFault host fault) ∧
    (∀ fault other, invocation.EarliestFault host fault →
      invocation.EarliestFault host other → fault = other) ∧
    (invocation.ReportsEarliestFault host ↔ ¬invocation.StopsAtVariable host) ∧
    (¬invocation.CanRender host → ∃ fault, invocation.LeavesNoTrace host fault) := by
  refine ⟨⟨exists_earliestFault, ?_⟩, fun _ _ => EarliestFault.unique, ⟨?_, ?_⟩, ?_⟩
  · rintro ⟨fault, hfault⟩
    exact hfault.not_canRender
  · intro hreports hstop
    have hreported := hreports _ (hstop.earliestFault_iff.mpr rfl)
    exact hstop.runWith_ne .none (hreported.runWith_eq .none)
  · intro hstop fault hfault
    exact .of_runHooked (hfault.runHooked_eq hstop)
  · intro hstuck
    by_cases hstop : invocation.StopsAtVariable host
    · exact ⟨_, .of_runHooked hstop.runHooked_eq⟩
    · obtain ⟨fault, hfault⟩ := exists_earliestFault hstuck
      exact ⟨fault, .of_runHooked (hfault.runHooked_eq hstop)⟩

def spoiledHost : Host := .holding EnvironmentFile.fileName "A=\x00\n"

theorem not_reportsEarliestFault_spoiledHost :
    CommandLine.parse ["in.def"] spoiledHost.environment = .ok { input := some "in.def" } ∧
      ¬ReportsEarliestFault { input := some "in.def" } spoiledHost := by
  have hparse : CommandLine.parse ["in.def"] ∅ = .ok { input := some "in.def" } := by cbv
  refine ⟨hparse, ?_⟩
  intro hreports
  have hspoiled : EnvironmentFile.environment? spoiledHost = none := by
    rw [spoiledHost, Host.environment?_holding]
    decide +kernel
  have hstop : StopsAtVariable { input := some "in.def" } spoiledHost :=
    ⟨⟨_, rfl⟩, ⟨_, .default rfl⟩, rfl, EnvironmentFile.environment?_eq_none_iff.mp hspoiled⟩
  have hreported := hreports _ (hstop.earliestFault_iff.mpr rfl)
  exact hstop.runWith_ne .none (hreported.runWith_eq .none)

end Invocation

end BuiltinWrappers
