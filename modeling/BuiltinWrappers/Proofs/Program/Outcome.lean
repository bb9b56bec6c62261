import BuiltinWrappers.Proofs.Program.Messages
import BuiltinWrappers.Proofs.Program.Success

/-!
# What a run tells at its end

The exit code is that of the run: zero if it succeeded and both headers were
written, two if the arguments were rejected, and otherwise one.  Standard output
names the headers, or tells a fault that concerns the user on a line of its own.
-/

namespace BuiltinWrappers

/-! ## Runs that start no script -/

theorem maskedMode_and (host : Host) {mode bits : Nat} (h : mode &&& bits = 0) :
    host.maskedMode mode &&& bits = 0 := by
  apply Nat.eq_of_testBit_eq
  intro index
  have hbit := congrArg (Nat.testBit · index) h
  simp only [Nat.testBit_and, Nat.zero_testBit, Host.maskedMode, Nat.testBit_xor] at hbit ⊢
  cases hset : mode.testBit index with
  | true =>
      have hclear : bits.testBit index = false := by simpa [hset] using hbit
      simp [hclear]
  | false => simp

/-- No file stands where the license script would. -/
def Host.LacksScript (host : Host) (root : String) : Prop :=
  ∀ location, host.LeadsTo (licenseScriptPath root) location → ∀ content mode,
    host.tree.node? location ≠ some (.file content mode)

variable {host before after : Host} {root : String} {places : Location → Prop}

/-- A file that a run has made there cannot be started. -/
theorem offersScript_of_lacksScript (hlacks : before.LacksScript root)
    (h : Host.DifferOnlyAt places before after) : after.offersScript root = false := by
  unfold Host.offersScript
  split
  next found node hlocate =>
    obtain ⟨location, hleads, hfound⟩ := bind_eq_ok_iff.mp hlocate
    obtain ⟨rfl, hnode⟩ := Prod.mk.inj (pure_eq_ok_iff.mp hfound)
    cases node with
    | directory mode => rfl
    | link target => rfl
    | file content mode =>
        have hmode : mode = before.maskedMode 0o666 := by
          have hsame := h.modeAt_eq location
          rw [Host.modeAt, hnode] at hsame
          refine hsame.trans ?_
          unfold Host.modeAt
          split
          next old hold => exact absurd hold (hlacks location (h.leadsTo_iff.mp hleads) _ _)
          · rfl
        have hplain : mode &&& 0o111 = 0 := hmode ▸ maskedMode_and before (by decide)
        simp [Node.isExecutable, Node.mode, hplain]
  · rfl

namespace Invocation

variable {invocation : Invocation} {settings : Settings}

/-- No license script is asked for, or there is none. -/
def StartsNoScript (invocation : Invocation) (host : Host) : Prop :=
  invocation.skipLicense ∨
    ∀ settings, invocation.settings host = .ok settings → host.LacksScript settings.root

theorem hook_eq_self (license : License) (h : invocation.StartsNoScript before)
    (hsettings : invocation.settings before = .ok settings)
    (hdiffers : Host.DifferOnlyAt places before after) (path : String) :
    invocation.hook license settings.root before path after = after := by
  unfold hook
  by_cases hskip : invocation.skipLicense
  · rw [if_pos hskip]
    rfl
  · rw [if_neg hskip]
    have hlacks := h.resolve_left hskip settings hsettings
    exact license.hook_eq_self _ _ path after (offersScript_of_lacksScript hlacks hdiffers)

end Invocation

/-! ## The headers of a run that succeeds -/

/-- The path of the runtime header names the file that the compiler header is written to. -/
def Host.OneHeaderFile (host : Host) (root : String) : Prop :=
  ∃ runtime compiler, host.LeadsTo (Header.runtime.pathIn root) runtime ∧
    host.LeadsTo (Header.compiler.pathIn root) compiler ∧ runtime ∈ host.namesOf compiler

namespace HeaderTexts

variable {texts : HeaderTexts} {first : Host} {runtime compiler : Location}

/-- Both headers hold their texts, but one file for both holds the text that comes last. -/
structure Saved (texts : HeaderTexts) (root : String) (before after : Host) : Prop where
  compiler : after.Holds (Header.compiler.pathIn root) texts.compiler
  runtime : ¬before.OneHeaderFile root → after.Holds (Header.runtime.pathIn root) texts.runtime
  shared : before.OneHeaderFile root → after.Holds (Header.runtime.pathIn root) texts.compiler

theorem Writes.saved (h : texts.Writes root before runtime compiler first after) :
    texts.Saved root before after := by
  have hcompilerLeads : first.LeadsTo (Header.compiler.pathIn root) compiler :=
    h.runtime_differs.leadsTo_iff.mpr h.compiler_leads
  have hruntimeTop := Host.ne_nil_of_write h.runtime_leads h.first_eq
  have hcompilerTop := Host.ne_nil_of_write hcompilerLeads h.after_eq
  have hnames : first.namesOf compiler = before.namesOf compiler :=
    congrFun h.runtime_differs.namesOf_eq compiler
  constructor
  · exact (h.leadsTo_iff.mpr h.compiler_leads).holds
      (Host.node?_of_write hcompilerLeads h.after_eq (first.mem_namesOf compiler) hcompilerTop)
  · intro happart
    have hother : runtime ∉ first.namesOf compiler := fun hname =>
      happart ⟨runtime, compiler, h.runtime_leads, h.compiler_leads, hnames ▸ hname⟩
    have hkept := h.compiler_differs.node?_eq hother
    rw [Host.node?_of_write h.runtime_leads h.first_eq (before.mem_namesOf runtime) hruntimeTop]
      at hkept
    exact (h.leadsTo_iff.mpr h.runtime_leads).holds hkept
  · rintro ⟨found, other, hfound, hother, hname⟩
    obtain rfl := h.runtime_leads.unique hfound
    obtain rfl := h.compiler_leads.unique hother
    exact (h.leadsTo_iff.mpr h.runtime_leads).holds
      (Host.node?_of_write hcompilerLeads h.after_eq (hnames ▸ hname) hruntimeTop)

end HeaderTexts

theorem Settings.exists_generate_none {settings : Settings} {input : String} {hook : Hook}
    {report : Report} (h : settings.generate input hook before = (.ok report, after)) :
    ∃ written, settings.generate input .none before = (.ok report, written) ∧
      after = hook (Header.compiler.pathIn settings.root)
        (hook (Header.runtime.pathIn settings.root) written) := by
  have hcalls := h.symm.trans (settings.hookCalls_generate input before hook)
  obtain ⟨hresult, hafter⟩ := Prod.mk.inj hcalls
  rw [← hresult] at hafter
  exact ⟨_, Prod.ext hresult.symm rfl, hafter⟩

theorem Report.savedLines_of_files {report : Report} {texts : HeaderTexts}
    (h : report.files = [texts.written root .runtime, texts.written root .compiler]) :
    report.savedLines = "Wrapper header saved to " ++ Header.runtime.pathIn root ++ "\n" ++
      ("Wrapper header for compiler saved to " ++ Header.compiler.pathIn root ++ "\n") := by
  have hruntime : "Wrapper header saved to " = "Wrapper header" ++ " saved to " := rfl
  have hcompiler : "Wrapper header for compiler saved to " =
      "Wrapper header for compiler" ++ " saved to " := rfl
  rw [Report.savedLines, h, hruntime, hcompiler]
  simp only [HeaderTexts.written, Header.label, List.map_cons, List.map_nil, String.join_cons,
    String.join_nil, String.append_empty, String.append_assoc]

namespace Invocation

variable {invocation : Invocation} {report : Report} {fault : Fault}

/-- Both headers hold what the settings make of the input, and their paths are told. -/
def Saves (invocation : Invocation) (before after : Host) : Prop :=
  ∃ input text settings texts, invocation.input = some input ∧
    before.readText input = .ok text ∧ invocation.settings before = .ok settings ∧
    settings.headerTexts (.ofText text.toList) = .ok texts ∧
    texts.Saved settings.root before after ∧
    after.printed = before.printed ++
      ("Wrapper header saved to " ++ Header.runtime.pathIn settings.root ++ "\n" ++
        ("Wrapper header for compiler saved to " ++ Header.compiler.pathIn settings.root ++
          "\n"))

theorem saves_of_runWith {license : License} (hsound : before.Sound)
    (h : invocation.StartsNoScript before)
    (hrun : invocation.runWith license before = (.ok report, after)) :
    invocation.Saves before (after.print report.savedLines) := by
  unfold runWith at hrun
  split at hrun
  · simp at hrun
  next input hinput =>
  split at hrun
  · simp at hrun
  next settings hsettings =>
  obtain ⟨written, hnone, hafter⟩ := Settings.exists_generate_none hrun
  obtain ⟨catalog, texts, hprepare, hwrite, -⟩ := Settings.exists_of_generate_none hnone
  obtain ⟨text, hread, rfl, htexts⟩ := Settings.prepare_eq_ok_iff.mp hprepare
  obtain ⟨runtime, compiler, first, hwrites⟩ := HeaderTexts.exists_writes hsound hwrite
  have hdiffers := hwrites.differOnlyAt
  rw [hook_eq_self license h hsettings hdiffers, hook_eq_self license h hsettings hdiffers]
    at hafter
  obtain ⟨hfiles, -⟩ := HeaderTexts.write_none_eq_ok_iff.mp hwrite
  have hsaved := hwrites.saved
  subst hafter
  refine ⟨input, text, settings, texts, hinput, hread, hsettings, htexts,
    ⟨hsaved.compiler, hsaved.runtime, hsaved.shared⟩, ?_⟩
  have hprinted : after.printed = before.printed := by rw [hdiffers.rest]
  rw [Host.print, hprinted, Report.savedLines_of_files hfiles]

/-! ## Runs that fail -/

theorem printed_of_runWith_error {license : License}
    (h : invocation.runWith license before = (.error fault, after)) :
    after.printed = before.printed := by
  unfold runWith at h
  split at h
  · rw [← (Prod.mk.inj h).2]
  split at h
  · rw [← (Prod.mk.inj h).2]
  rcases Settings.of_generate_error h with ⟨-, rfl⟩ | ⟨texts, hwrite⟩
  · rfl
  obtain ⟨-, rfl | hfirst⟩ := HeaderTexts.of_write_error hwrite
  · rfl
  · obtain ⟨location, -, -, rfl⟩ := Host.write_eq_ok_iff.mp hfirst
    rfl

end Invocation

namespace Fault

variable {fault : Fault}

theorem concernsUser_iff :
    fault.concernsUser ↔
      fault = .missingInput ∨ ∃ name obstacle, fault = .notWrappable name obstacle := by
  cases fault <;> simp [concernsUser]

theorem exitCode_eq_one (h : fault ≠ .unstorableVariable) : fault.exitCode = 1 := by
  cases fault <;> first | rfl | exact absurd rfl h

theorem exitCode_ne (fault : Fault) : fault.exitCode ≠ 0 ∧ fault.exitCode ≠ 2 := by
  cases fault <;> simp [exitCode]

/-- Two faults are told, on one line and with nothing else changed, and no others. -/
structure Told (fault : Fault) (before after : Host) : Prop where
  printed_iff : after.printed ≠ before.printed ↔
    fault = .missingInput ∨ ∃ name obstacle, fault = .notWrappable name obstacle
  on_one_line : after.printed ≠ before.printed →
    OneLine fault.message ∧ after = before.print (fault.message ++ "\n")

end Fault

/-! ## The program -/

variable {license : License} {arguments : List String} {host : Host} {invocation : Invocation}
  {fault : Fault}

theorem Host.printed_print_ne (host : Host) (text : String) :
    (host.print (text ++ "\n")).printed ≠ host.printed := by
  intro hsame
  have hlength := congrArg String.length hsame
  simp [Host.print] at hlength

theorem programWith_of_usageFault {cause : UsageFault}
    (hhelp : cause ≠ .displayHelp) (hversion : cause ≠ .displayVersion)
    (h : CommandLine.parse arguments host.environment = .error cause) :
    programWith license arguments host = (2, host) := by
  unfold programWith
  rw [h]
  cases cause with
  | displayHelp => exact absurd rfl hhelp
  | displayVersion => exact absurd rfl hversion
  | _ => rfl

theorem programWith_of_report {report : Report}
    (hparse : CommandLine.parse arguments host.environment = .ok invocation)
    (hrun : invocation.runWith license host = (.ok report, after)) :
    programWith license arguments host = (0, after.print report.savedLines) := by
  simp only [programWith, hparse, hrun]

theorem programWith_of_fault
    (hparse : CommandLine.parse arguments host.environment = .ok invocation)
    (hrun : invocation.runWith license host = (.error fault, after)) :
    programWith license arguments host = (fault.exitCode,
      if fault.concernsUser then after.print (fault.message ++ "\n") else after) := by
  simp only [programWith, hparse, hrun]

theorem told_of_runWith (hparse : CommandLine.parse arguments host.environment = .ok invocation)
    (hrun : invocation.runWith license host = (.error fault, after)) :
    fault.Told host (programWith license arguments host).2 := by
  rw [programWith_of_fault hparse hrun]
  by_cases huser : fault.concernsUser
  · obtain ⟨hline, rfl⟩ := Invocation.oneLine_of_runWith hrun huser
    rw [if_pos huser]
    exact ⟨iff_of_true (after.printed_print_ne _) (Fault.concernsUser_iff.mp huser),
      fun _ => ⟨hline, rfl⟩⟩
  · have hprinted := Invocation.printed_of_runWith_error hrun
    rw [if_neg huser]
    exact ⟨iff_of_false (not_not_intro hprinted) (mt Fault.concernsUser_iff.mpr huser),
      fun hother => absurd hprinted hother⟩

/--
Unless help or the version is asked for, the exit code tells how the program went:
two if the arguments are rejected, when nothing is changed, and zero if the run
succeeds, when the headers are saved and their paths told.  Any other run ends with
one and has told its fault if it concerns the user, but one that the environment
file breaks off.
-/
theorem program_outcome (license : License) (hsound : host.Sound)
    (hhelp : CommandLine.parse arguments host.environment ≠ .error .displayHelp)
    (hversion : CommandLine.parse arguments host.environment ≠ .error .displayVersion) :
    ((programWith license arguments host).1 = 2 ↔
      ∃ cause, CommandLine.parse arguments host.environment = .error cause) ∧
    ((programWith license arguments host).1 = 2 → (programWith license arguments host).2 = host) ∧
    ∀ invocation, CommandLine.parse arguments host.environment = .ok invocation →
      ((programWith license arguments host).1 = 0 ↔
        ∃ report, (invocation.runWith license host).1 = .ok report) ∧
      (invocation.StartsNoScript host → (programWith license arguments host).1 = 0 →
        invocation.Saves host (programWith license arguments host).2) ∧
      ∀ fault, (invocation.runWith license host).1 = .error fault → fault ≠ .unstorableVariable →
        (programWith license arguments host).1 = 1 ∧
          fault.Told host (programWith license arguments host).2 := by
  cases hparse : CommandLine.parse arguments host.environment with
  | error cause =>
      rw [hparse] at hhelp hversion
      rw [programWith_of_usageFault (fun heq => hhelp (heq ▸ rfl)) (fun heq => hversion (heq ▸ rfl))
        hparse]
      exact ⟨iff_of_true rfl ⟨cause, rfl⟩, fun _ => rfl, by simp⟩
  | ok invocation =>
      rcases hrun : invocation.runWith license host with ⟨fault | report, after⟩
      · have htold := told_of_runWith hparse hrun
        obtain ⟨hzero, htwo⟩ := fault.exitCode_ne
        rw [programWith_of_fault hparse hrun] at htold ⊢
        refine ⟨iff_of_false htwo (by simp), fun h => absurd h htwo, ?_⟩
        intro other hother
        obtain rfl := Except.ok.inj hother
        rw [hrun]
        refine ⟨iff_of_false hzero (by simp), fun _ h => absurd h hzero, ?_⟩
        intro found hfound hfine
        obtain rfl := Except.error.inj hfound
        exact ⟨Fault.exitCode_eq_one hfine, htold⟩
      · rw [programWith_of_report hparse hrun]
        refine ⟨iff_of_false (by simp) (by simp), by simp, ?_⟩
        intro other hother
        obtain rfl := Except.ok.inj hother
        rw [hrun]
        refine ⟨iff_of_true rfl ⟨report, rfl⟩, ?_, by simp⟩
        intro hscript _
        exact Invocation.saves_of_runWith hsound hscript hrun

/-! ## An installation with headers to be replaced -/

def outputNames : List Location :=
  [Header.runtime, .compiler].map fun header => FileTree.pathNames header.place

def outputFiles : List (Location × String) := singleFiles ++ outputNames.map (·, "old")

/-- Both headers stand already, next to an input and settings that delegate one name. -/
def outputHost (aliases : List (List Location)) : Host :=
  .built outputDirectories outputFiles aliases

def outputArguments : List String := ["--no-license", "--chpl-home=.", "-cc.toml", "in.def"]

def outputInvocation : Invocation where
  input := some "in.def"
  root := some "."
  settingsFile := some "c.toml"
  skipLicense := true

theorem fitTogether_apart : Host.FitTogether outputDirectories outputFiles [] := by
  constructor <;> decide

theorem fitTogether_shared : Host.FitTogether outputDirectories outputFiles [outputNames] := by
  constructor <;> decide

theorem parse_outputArguments (aliases : List (List Location)) :
    CommandLine.parse outputArguments (outputHost aliases).environment = .ok outputInvocation := by
  change CommandLine.parse outputArguments ∅ = _
  cbv

theorem settings_outputHost {aliases : List (List Location)}
    (h : Host.FitTogether outputDirectories outputFiles aliases) :
    outputInvocation.settings (outputHost aliases) = .ok singleSettings := by
  have hsettings : outputInvocation.HasSettings (outputHost aliases) singleSettings :=
    .file rfl (h.ofFile_settings rfl)
  rw [hsettings.settings_eq]
  rfl

theorem exists_runWith_outputHost {aliases : List (List Location)}
    (h : Host.FitTogether outputDirectories outputFiles aliases) :
    ∃ report after, outputInvocation.runWith .none (outputHost aliases) = (.ok report, after) := by
  have hroot : outputInvocation.FindsRoot (outputHost aliases) "." := .given rfl
  obtain ⟨report, after, hrun, -⟩ := h.exists_runWith rfl rfl .none rfl rfl rfl hroot
  exact ⟨report, after, hrun⟩

/-- Each header is a file of its own, and gets its own text. -/
theorem program_outcome_outputHost :
    (outputHost []).Sound ∧
      CommandLine.parse outputArguments (outputHost []).environment = .ok outputInvocation ∧
      outputInvocation.StartsNoScript (outputHost []) ∧
      (programWith .none outputArguments (outputHost [])).1 = 0 ∧
      outputInvocation.Saves (outputHost [])
        (programWith .none outputArguments (outputHost [])).2 := by
  have hsound : (outputHost []).Sound := fitTogether_apart.sound
  have hparse := parse_outputArguments []
  obtain ⟨report, after, hrun⟩ := exists_runWith_outputHost fitTogether_apart
  have haccepted (cause : UsageFault) :
      CommandLine.parse outputArguments (outputHost []).environment ≠ .error cause := by
    simp [hparse]
  obtain ⟨-, -, hruns⟩ := program_outcome .none hsound (haccepted _) (haccepted _)
  obtain ⟨hzero, hsaves, -⟩ := hruns _ hparse
  have hexit := hzero.mpr ⟨report, by rw [hrun]⟩
  exact ⟨hsound, hparse, .inl rfl, hexit, hsaves (.inl rfl) hexit⟩

/-- One file for both headers cannot hold both texts. -/
theorem program_not_holds_sharedOutput :
    (outputHost [outputNames]).Sound ∧
      CommandLine.parse outputArguments (outputHost [outputNames]).environment =
        .ok outputInvocation ∧
      outputInvocation.skipLicense ∧
      (outputHost [outputNames]).readText "in.def" = .ok sourceText ∧
      outputInvocation.settings (outputHost [outputNames]) = .ok singleSettings ∧
      singleSettings.headerTexts (.ofText sourceText.toList) = .ok singleTexts ∧
      (programWith .none outputArguments (outputHost [outputNames])).1 = 0 ∧
      ¬(programWith .none outputArguments (outputHost [outputNames])).2.Holds
        (Header.runtime.pathIn singleSettings.root) singleTexts.runtime := by
  have h := fitTogether_shared
  have hsound : (outputHost [outputNames]).Sound := h.sound
  have hparse := parse_outputArguments [outputNames]
  have htext : (outputHost [outputNames]).readText "in.def" = .ok sourceText :=
    h.readText_input rfl
  have hloaded := settings_outputHost h
  obtain ⟨report, after, hrun⟩ := exists_runWith_outputHost h
  have hprogram := programWith_of_report hparse hrun
  obtain ⟨input, text, settings, texts, hinput, hread, hsettings, htexts, hsaved, -⟩ :=
    Invocation.saves_of_runWith hsound (.inl rfl) hrun
  obtain rfl : "in.def" = input := Option.some.inj hinput
  obtain rfl : sourceText = text := Except.ok.inj (htext.symm.trans hread)
  obtain rfl := Except.ok.inj (hloaded.symm.trans hsettings)
  obtain rfl : singleTexts = texts :=
    Except.ok.inj (headerTexts_singleSettings.symm.trans htexts)
  have hone : (outputHost [outputNames]).OneHeaderFile singleSettings.root :=
    ⟨_, _, h.leadsTo_header .runtime, h.leadsTo_header .compiler, by decide⟩
  refine ⟨hsound, hparse, rfl, htext, hloaded, headerTexts_singleSettings, by rw [hprogram], ?_⟩
  rw [hprogram]
  intro hholds
  have hsame := hholds.readText_eq.symm.trans (hsaved.shared hone).readText_eq
  exact absurd (Except.ok.inj hsame) (by decide +kernel)

end BuiltinWrappers
