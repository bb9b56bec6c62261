import BuiltinWrappers.Proofs.CommandLine.Spelling
import BuiltinWrappers.Proofs.Host.Assignments
import BuiltinWrappers.Proofs.Host.Contents
import BuiltinWrappers.Proofs.Program.Success

/-!
# What an environment file can change

The root is the one given, or else the one that the environment has, or else the
first that the nearest environment file assigns.  Nothing else of that file reaches
a run without a license script, unless the file cannot be stored.
-/

namespace BuiltinWrappers

open Host (ContentsDifferAt SameElsewhere)

/-! ## The root -/

/-- The root that comes first: the one given, else that of the environment, else of the file. -/
def firstRoot (explicit : Option String) (host : Host) : Except Fault String :=
  match explicit.or (host.environment[rootVariable]?.or
      ((EnvironmentFile.assigned host).lookup rootVariable)) with
  | some root => .ok root
  | none => .error (.unsetVariable rootVariable)

theorem findRoot_of_isSpoiled {host : Host} (h : EnvironmentFile.IsSpoiled host) :
    findRoot none host = .error .unstorableVariable := by
  rw [findRoot, EnvironmentFile.environment?_eq_none_iff.mpr h]

theorem findRoot_of_not_isSpoiled {host : Host} (h : ¬EnvironmentFile.IsSpoiled host)
    (explicit : Option String) : findRoot explicit host = firstRoot explicit host := by
  cases explicit with
  | some root => rfl
  | none =>
      obtain ⟨reached, hreached⟩ := Option.ne_none_iff_exists'.mp
        (mt EnvironmentFile.environment?_eq_none_iff.mp h)
      have hsame := EnvironmentFile.getElem?_of_environment? hreached rootVariable
      cases hvalue : reached[rootVariable]? <;>
        simp only [findRoot, hreached, firstRoot, Option.none_or, ← hsame, hvalue]

theorem findRoot_eq_firstRoot_iff (explicit : Option String) (host : Host) :
    findRoot explicit host = firstRoot explicit host ↔
      ¬(explicit = none ∧ EnvironmentFile.IsSpoiled host) := by
  constructor
  · rintro heq ⟨rfl, hspoiled⟩
    rw [findRoot_of_isSpoiled hspoiled, firstRoot] at heq
    split at heq <;> simp at heq
  · intro hfine
    cases explicit with
    | some root => rfl
    | none => exact findRoot_of_not_isSpoiled (fun hspoiled => hfine ⟨rfl, hspoiled⟩) none

theorem CommandLine.root_isSome_of_parse {arguments : List String} {environment : Environment}
    {invocation : Invocation} (h : parse arguments environment = .ok invocation)
    (hset : environment.contains rootVariable) : invocation.root.isSome := by
  rw [parse_eq] at h
  obtain ⟨given, -, hcomplete⟩ := bind_eq_ok_iff.mp h
  by_cases hempty : MeetsEmptyVariable environment given
  · rw [complete_of_meetsEmptyVariable hempty] at hcomplete
    contradiction
  · rw [complete_of_not_meetsEmptyVariable hempty] at hcomplete
    split at hcomplete
    · contradiction
    · obtain rfl := Except.ok.inj hcomplete
      rw [Std.ExtTreeMap.contains_eq_isSome_getElem?] at hset
      change (given.root.or environment["CHPL_HOME"]?).isSome
      rw [Option.isSome_or, Bool.or_eq_true]
      exact .inr hset

/-! ## Passes over hosts that differ in contents -/

/-- Both end in the same, and all is the same then but what stands at these places. -/
structure AlikeBut (places : Location → Prop) (left right : Except Fault Report × Host) :
    Prop where
  result : right.1 = left.1
  host : SameElsewhere places left.2 right.2
  headers : ∀ report, left.1 = .ok report → ∀ file ∈ report.files,
    right.2.readText file.path = left.2.readText file.path

variable {places : Location → Prop} {left right : Host}

theorem AlikeBut.of_error (h : SameElsewhere places left right) (fault : Fault) :
    AlikeBut places (.error fault, left) (.error fault, right) :=
  ⟨rfl, h, by simp⟩

theorem HeaderTexts.write_alike {texts : HeaderTexts} {root : String} {files : List WrittenHeader}
    {after : Host} (hsound : left.Sound) (h : ContentsDifferAt places left right)
    (hwrite : texts.write root .none left = (.ok files, after)) :
    ∃ other, texts.write root .none right = (.ok files, other) ∧
      SameElsewhere places after other ∧
      ∀ file ∈ files, other.readText file.path = after.readText file.path := by
  obtain ⟨runtime, compiler, first, hwrites⟩ := exists_writes hsound hwrite
  obtain ⟨rfl, -⟩ := write_none_eq_ok_iff.mp hwrite
  obtain ⟨otherFirst, hotherFirst, hdiffers⟩ := h.write_ok hwrites.runtime_leads hwrites.first_eq
  obtain ⟨other, hother, hlast⟩ := hdiffers.write_ok
    (hwrites.runtime_differs.leadsTo_iff.mpr hwrites.compiler_leads) hwrites.after_eq
  refine ⟨other, write_none_eq_ok_iff.mpr ⟨rfl, otherFirst, hotherFirst, hother⟩,
    hlast.toSameElsewhere.mono fun place hplace => hplace.1.1, ?_⟩
  simp only [List.forall_mem_cons, List.not_mem_nil, false_implies, implies_true, and_true]
  constructor
  · refine hlast.readText_eq ?_
    rintro location hleads ⟨⟨-, hname⟩, -⟩
    obtain rfl := hwrites.runtime_leads.unique (hwrites.leadsTo_iff.mp hleads)
    exact hname (left.mem_namesOf _)
  · refine hlast.readText_eq ?_
    rintro location hleads ⟨-, hname⟩
    obtain rfl := hwrites.compiler_leads.unique (hwrites.leadsTo_iff.mp hleads)
    exact hname (first.mem_namesOf _)

theorem HeaderTexts.write_error_alike {texts : HeaderTexts} {root : String} {fault : Fault}
    {after : Host} (h : ContentsDifferAt places left right)
    (hwrite : texts.write root .none left = (.error fault, after)) :
    ∃ other, texts.write root .none right = (.error fault, other) ∧
      SameElsewhere places after other := by
  cases hfirst : texts.writeOne root .runtime left with
  | error cause =>
      rw [write_of_runtime_error hfirst] at hwrite
      obtain ⟨hfault, rfl⟩ := Prod.mk.inj hwrite
      obtain rfl := Except.error.inj hfault
      exact ⟨right, write_of_runtime_error (h.write_error hfirst) .none, h.toSameElsewhere⟩
  | ok first =>
      obtain ⟨runtime, hruntime, -⟩ := Host.write_eq_ok_iff.mp hfirst
      obtain ⟨otherFirst, hotherFirst, hdiffers⟩ := h.write_ok hruntime hfirst
      cases hsecond : texts.writeOne root .compiler first with
      | error cause =>
          rw [write_of_compiler_error hfirst hsecond] at hwrite
          obtain ⟨hfault, rfl⟩ := Prod.mk.inj hwrite
          obtain rfl := Except.error.inj hfault
          exact ⟨otherFirst,
            write_of_compiler_error hotherFirst (hdiffers.write_error hsecond) .none,
            hdiffers.toSameElsewhere.mono fun place hplace => hplace.1⟩
      | ok second => simp [write_of_ok hfirst hsecond] at hwrite

namespace Settings

variable {settings : Settings} {input : String}

theorem prepare_alike (h : ContentsDifferAt places left right)
    (hinput : ∀ location, left.LeadsTo input location → ¬places location) :
    settings.prepare input right = settings.prepare input left := by
  simp only [prepare, Catalog.ofFile, h.readText_eq hinput]

theorem generate_alike (hsound : left.Sound) (h : ContentsDifferAt places left right)
    (hinput : ∀ location, left.LeadsTo input location → ¬places location) :
    AlikeBut places (settings.generate input .none left)
      (settings.generate input .none right) := by
  have hprepare : settings.prepare input right = settings.prepare input left :=
    prepare_alike h hinput
  unfold generate
  rw [hprepare]
  cases settings.prepare input left with
  | error fault => exact .of_error h.toSameElsewhere fault
  | ok prepared =>
      obtain ⟨catalog, texts⟩ := prepared
      dsimp only
      rcases hwrite : texts.write settings.root .none left with ⟨fault | files, after⟩
      · obtain ⟨other, hother, hsame⟩ := HeaderTexts.write_error_alike h hwrite
        rw [hother]
        exact .of_error hsame fault
      · obtain ⟨other, hother, hsame, hheaders⟩ := HeaderTexts.write_alike hsound h hwrite
        rw [hother]
        exact ⟨rfl, hsame, by simpa using hheaders⟩

end Settings

/-! ## Runs -/

namespace Invocation

/-- Neither the input nor the settings file stands at one of these places. -/
structure ReadsElsewhere (invocation : Invocation) (host : Host) (places : Location → Prop) :
    Prop where
  input : ∀ path ∈ invocation.input, ∀ location, host.LeadsTo path location → ¬places location
  settingsFile : ∀ path ∈ invocation.settingsFile, ∀ location,
    host.LeadsTo path location → ¬places location

variable {invocation : Invocation}

theorem settings_alike (h : ContentsDifferAt places left right)
    (helsewhere : invocation.ReadsElsewhere left places)
    (hroot : findRoot invocation.root right = findRoot invocation.root left) :
    invocation.settings right = invocation.settings left := by
  unfold Invocation.settings
  rw [hroot]
  cases hfile : invocation.settingsFile with
  | none => rfl
  | some path =>
      have hread := h.readText_eq (helsewhere.settingsFile path hfile)
      simp only [Settings.ofFile, hread]

/-- What differs reaches the run only through the root. -/
theorem runWith_alike (license : License) (hsound : left.Sound)
    (h : ContentsDifferAt places left right) (hskip : invocation.skipLicense)
    (helsewhere : invocation.ReadsElsewhere left places)
    (hroot : findRoot invocation.root right = findRoot invocation.root left) :
    AlikeBut places (invocation.runWith license left) (invocation.runWith license right) := by
  unfold runWith
  cases hinput : invocation.input with
  | none => exact .of_error h.toSameElsewhere _
  | some input =>
      dsimp only
      rw [settings_alike h helsewhere hroot]
      cases invocation.settings left with
      | error fault => exact .of_error h.toSameElsewhere fault
      | ok settings =>
          dsimp only
          rw [hook, hook, if_pos hskip, if_pos hskip]
          exact Settings.generate_alike hsound h (helsewhere.input input hinput)

end Invocation

/-! ## The environment file -/

/-- The hosts are the same but for what their nearest environment file holds. -/
structure DifferInEnvironmentFile (place : Location) (left right : Host) : Prop where
  nearest : EnvironmentFile.place? left = some place
  contents : ContentsDifferAt (· ∈ left.namesOf place) left right

open EnvironmentFile (assigned IsSpoiled) in
/--
The first root counts, unless none is given and the environment file cannot be stored.
A run without a license script goes the same way whatever the environment file holds,
as long as the root does not come from there, and else if the file gives the same root.
-/
theorem Invocation.root_precedence_and_isolation (license : License) (explicit : Option String)
    (host : Host) :
    (findRoot explicit host = firstRoot explicit host ↔ ¬(explicit = none ∧ IsSpoiled host)) ∧
    (IsSpoiled host → findRoot none host = .error .unstorableVariable) ∧
    ∀ place other, host.Sound → DifferInEnvironmentFile place host other →
      EnvironmentFile.place? other = some place ∧
      ∀ arguments,
        CommandLine.parse arguments other.environment =
          CommandLine.parse arguments host.environment ∧
        ∀ invocation : Invocation,
          CommandLine.parse arguments host.environment = .ok invocation →
          invocation.skipLicense →
          invocation.ReadsElsewhere host (· ∈ host.namesOf place) →
            (invocation.root.isSome ∨ host.environment.contains rootVariable →
              AlikeBut (· ∈ host.namesOf place) (invocation.runWith license host)
                (invocation.runWith license other)) ∧
            (¬IsSpoiled host → ¬IsSpoiled other →
              (assigned other).lookup rootVariable = (assigned host).lookup rootVariable →
              AlikeBut (· ∈ host.namesOf place) (invocation.runWith license host)
                (invocation.runWith license other)) := by
  refine ⟨findRoot_eq_firstRoot_iff explicit host, findRoot_of_isSpoiled, ?_⟩
  intro place other hsound hdiffer
  refine ⟨hdiffer.contents.place?_eq.trans hdiffer.nearest, ?_⟩
  intro arguments
  have henvironment : other.environment = host.environment := by rw [hdiffer.contents.rest]
  refine ⟨by rw [henvironment], ?_⟩
  intro invocation hparse hskip helsewhere
  constructor
  · intro hgiven
    have hroot : invocation.root.isSome := by
      rcases hgiven with hroot | hset
      · exact hroot
      · exact CommandLine.root_isSome_of_parse hparse hset
    obtain ⟨root, hroot⟩ := Option.isSome_iff_exists.mp hroot
    refine runWith_alike license hsound hdiffer.contents hskip helsewhere ?_
    rw [hroot]
    rfl
  · intro hhost hother hassigned
    refine runWith_alike license hsound hdiffer.contents hskip helsewhere ?_
    rw [findRoot_of_not_isSpoiled hhost, findRoot_of_not_isSpoiled hother]
    simp only [firstRoot, henvironment, hassigned]

/-! ## Two environment files -/

/-- An installation with an environment file. -/
def rootedFiles (text : String) : List (Location × String) :=
  ([EnvironmentFile.fileName], text) :: singleFiles

def rootedHost (text : String) : Host := .built outputDirectories (rootedFiles text) []

def rootedText : String := "CHPL_HOME=.\n"

/-- The same root comes first, and more is assigned. -/
def longerRootedText : String := "B=1\nCHPL_HOME=.\nCHPL_HOME=/opt\n"

def rootedInvocation : Invocation where
  input := some "in.def"
  settingsFile := some "c.toml"
  skipLicense := true

theorem fitTogether_rootedHost (text : String) :
    Host.FitTogether outputDirectories (rootedFiles text) [] := by
  constructor
  · simp [rootedFiles, singleFiles, outputDirectories, EnvironmentFile.fileName, List.lookup]
  · simp [rootedFiles, singleFiles, outputDirectories]
  · simp
  · simp

theorem assigned_rootedHost (text : String) :
    EnvironmentFile.assigned (rootedHost text) =
      EnvironmentFile.assignments ∅ (text.toUTF8.toList.splitOn 10) := by
  rw [EnvironmentFile.assigned, rootedHost, (fitTogether_rootedHost text).content?_eq rfl]
  rfl

theorem not_isSpoiled_rootedHost {text : String}
    (h : EnvironmentFile.read? ∅ text.toUTF8 ≠ none) :
    ¬EnvironmentFile.IsSpoiled (rootedHost text) := by
  rw [← (fitTogether_rootedHost text).environment?_eq rfl] at h
  exact mt EnvironmentFile.environment?_eq_none_iff.mpr h

theorem readsElsewhere_rootedHost (text : String) :
    rootedInvocation.ReadsElsewhere (rootedHost text)
      (· ∈ (rootedHost text).namesOf [EnvironmentFile.fileName]) := by
  have hfit := fitTogether_rootedHost text
  have hinput : (rootedHost text).LeadsTo "in.def" ["in.def"] :=
    hfit.leadsTo_name (by constructor <;> decide) (by constructor <;> decide) (by decide)
  have hsettings : (rootedHost text).LeadsTo "c.toml" ["c.toml"] :=
    hfit.leadsTo_name (by constructor <;> decide) (by constructor <;> decide) (by decide)
  have hnames : (rootedHost text).namesOf [EnvironmentFile.fileName] =
      [[EnvironmentFile.fileName]] := rfl
  rw [hnames]
  constructor
  · rintro path hpath location hlocation
    obtain rfl := Option.some.inj hpath
    obtain rfl := hinput.unique hlocation
    decide
  · rintro path hpath location hlocation
    obtain rfl := Option.some.inj hpath
    obtain rfl := hsettings.unique hlocation
    decide

theorem exists_runWith_rootedHost :
    ∃ report after, rootedInvocation.runWith .none (rootedHost rootedText) = (.ok report, after) ∧
      report.files = [singleTexts.written "." .runtime, singleTexts.written "." .compiler] := by
  have hfit := fitTogether_rootedHost rootedText
  have hassigned : (EnvironmentFile.assigned (rootedHost rootedText)).lookup rootVariable =
      some "." := by
    rw [assigned_rootedHost]
    decide +kernel
  have hroot : findRoot none (rootedHost rootedText) = .ok "." := by
    rw [findRoot_of_not_isSpoiled (not_isSpoiled_rootedHost (by decide +kernel)), firstRoot,
      hassigned]
    rfl
  exact hfit.exists_runWith rfl rfl .none rfl rfl rfl (Invocation.FindsRoot.of_findRoot hroot)

theorem root_precedence_and_isolation_rootedHost :
    (rootedHost rootedText).Sound ∧
      DifferInEnvironmentFile [EnvironmentFile.fileName] (rootedHost rootedText)
        (rootedHost longerRootedText) ∧
      ∃ report after other,
        rootedInvocation.runWith .none (rootedHost rootedText) = (.ok report, after) ∧
        rootedInvocation.runWith .none (rootedHost longerRootedText) = (.ok report, other) ∧
        ∀ header : Header, other.readText (header.pathIn ".") =
          after.readText (header.pathIn ".") := by
  have hfit := fitTogether_rootedHost rootedText
  have hdiffer : DifferInEnvironmentFile [EnvironmentFile.fileName] (rootedHost rootedText)
      (rootedHost longerRootedText) :=
    ⟨hfit.place?_eq rfl,
      Host.contentsDifferAt_built hfit (fitTogether_rootedHost longerRootedText) rfl⟩
  have hparse : CommandLine.parse ["--no-license", "-cc.toml", "in.def"]
      (rootedHost rootedText).environment = .ok rootedInvocation := by
    change CommandLine.parse ["--no-license", "-cc.toml", "in.def"] ∅ = _
    cbv
  obtain ⟨-, -, hruns⟩ :=
    Invocation.root_precedence_and_isolation .none none (rootedHost rootedText)
  obtain ⟨-, hsame⟩ := hruns _ _ hfit.sound hdiffer
  obtain ⟨-, hinvocation⟩ := hsame ["--no-license", "-cc.toml", "in.def"]
  have halike := (hinvocation _ hparse rfl (readsElsewhere_rootedHost rootedText)).2
    (not_isSpoiled_rootedHost (by decide +kernel)) (not_isSpoiled_rootedHost (by decide +kernel))
    (by rw [assigned_rootedHost, assigned_rootedHost]; decide +kernel)
  obtain ⟨report, after, hrun, hfiles⟩ := exists_runWith_rootedHost
  rw [hrun] at halike
  refine ⟨hfit.sound, hdiffer, report, after,
    (rootedInvocation.runWith .none (rootedHost longerRootedText)).2, hrun,
    Prod.ext halike.result rfl, ?_⟩
  intro header
  have hheader := halike.headers report rfl
  rw [hfiles] at hheader
  cases header with
  | runtime => exact hheader (singleTexts.written "." .runtime) (by simp)
  | compiler => exact hheader (singleTexts.written "." .compiler) (by simp)

/-- The root is assigned before a line that gives another variable a NUL. -/
def unstorableHost : Host :=
  .holding EnvironmentFile.fileName "CHPL_HOME=.\nA=\x00\n"

theorem findRoot_ne_firstRoot_unstorableHost :
    firstRoot none unstorableHost = .ok "." ∧
      findRoot none unstorableHost = .error .unstorableVariable := by
  have hcontent : EnvironmentFile.content? unstorableHost = some "CHPL_HOME=.\nA=\x00\n".toUTF8 :=
    (Host.fitTogether_holding _ _).content?_eq (by simp)
  have hassigned : (EnvironmentFile.assigned unstorableHost).lookup rootVariable = some "." := by
    rw [EnvironmentFile.assigned, hcontent]
    decide +kernel
  have hspoiled : EnvironmentFile.environment? unstorableHost = none := by
    rw [unstorableHost, Host.environment?_holding]
    decide +kernel
  refine ⟨?_, findRoot_of_isSpoiled (EnvironmentFile.environment?_eq_none_iff.mp hspoiled)⟩
  rw [firstRoot, hassigned]
  rfl

end BuiltinWrappers
