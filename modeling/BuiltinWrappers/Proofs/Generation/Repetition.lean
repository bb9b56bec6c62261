import BuiltinWrappers.Proofs.Generation.Dependence
import BuiltinWrappers.Proofs.Generation.Writing
import BuiltinWrappers.Proofs.Host.Difference

/-!
# Passes over earlier output

A pass reads no header, as long as its input is none, and what it writes stands
where older headers stood.  So it leads to the same host from all hosts that
differ in their headers only, and the host that it leads to is one of them.
-/

namespace BuiltinWrappers

open Host (DifferOnlyAt)

/-! ## The files of the headers -/

/-- The place is a name of the file that a header under the root is written to. -/
def Host.HeaderFile (host : Host) (root : String) (place : Location) : Prop :=
  ∃ header location, host.LeadsTo (Header.pathIn header root) location ∧
    place ∈ host.namesOf location

variable {before first after other : Host} {root input : String} {runtime compiler : Location}

theorem Host.headerFile_iff (hruntime : before.LeadsTo (Header.runtime.pathIn root) runtime)
    (hcompiler : before.LeadsTo (Header.compiler.pathIn root) compiler) (place : Location) :
    before.HeaderFile root place ↔
      place ∈ before.namesOf runtime ∨ place ∈ before.namesOf compiler := by
  constructor
  · rintro ⟨header, location, hleads, hplace⟩
    cases header with
    | runtime => exact .inl (hruntime.unique hleads ▸ hplace)
    | compiler => exact .inr (hcompiler.unique hleads ▸ hplace)
  · rintro (hplace | hplace)
    · exact ⟨.runtime, runtime, hruntime, hplace⟩
    · exact ⟨.compiler, compiler, hcompiler, hplace⟩

namespace HeaderTexts

variable {texts : HeaderTexts} {files : List WrittenHeader}

/-- Both writes of a pass, each of which makes a difference under the names of one file. -/
structure Writes (texts : HeaderTexts) (root : String) (before : Host)
    (runtime compiler : Location) (first after : Host) : Prop where
  runtime_leads : before.LeadsTo (Header.runtime.pathIn root) runtime
  compiler_leads : before.LeadsTo (Header.compiler.pathIn root) compiler
  first_eq : texts.writeOne root .runtime before = .ok first
  after_eq : texts.writeOne root .compiler first = .ok after
  runtime_differs : DifferOnlyAt (· ∈ before.namesOf runtime) before first
  compiler_differs : DifferOnlyAt (· ∈ first.namesOf compiler) first after

theorem exists_writes (hsound : before.Sound)
    (hwrite : texts.write root .none before = (.ok files, after)) :
    ∃ runtime compiler first, texts.Writes root before runtime compiler first after := by
  obtain ⟨-, first, hfirst, hafter⟩ := write_none_eq_ok_iff.mp hwrite
  obtain ⟨runtime, hruntime, hruntimePlace, -⟩ := Host.write_eq_ok_iff.mp hfirst
  obtain ⟨compiler, hcompiler, hcompilerPlace, -⟩ := Host.write_eq_ok_iff.mp hafter
  have hdiffers := DifferOnlyAt.of_write (hsound.oneFileAt hruntime hruntimePlace) hruntime hfirst
  have hcompilerBefore := hdiffers.leadsTo_iff.mp hcompiler
  have hcompilerOne := hsound.oneFileAt hcompilerBefore
    (mt (hdiffers.sameShape.directory compiler).mp hcompilerPlace)
  exact ⟨runtime, compiler, first, hruntime, hcompilerBefore, hfirst, hafter, hdiffers,
    .of_write (hdiffers.oneFileAt_iff.mpr hcompilerOne) hcompiler hafter⟩

namespace Writes

theorem headerFile_iff (h : texts.Writes root before runtime compiler first after)
    (place : Location) :
    before.HeaderFile root place ↔
      place ∈ before.namesOf runtime ∨ place ∈ first.namesOf compiler := by
  rw [h.runtime_differs.namesOf_eq]
  exact Host.headerFile_iff h.runtime_leads h.compiler_leads place

theorem leadsTo_iff (h : texts.Writes root before runtime compiler first after) {path : String}
    {place : Location} : after.LeadsTo path place ↔ before.LeadsTo path place :=
  h.compiler_differs.leadsTo_iff.trans h.runtime_differs.leadsTo_iff

theorem differOnlyAt (h : texts.Writes root before runtime compiler first after) :
    DifferOnlyAt (before.HeaderFile root) before after := by
  have hboth := h.runtime_differs.trans h.compiler_differs
  rwa [← funext fun place => propext (h.headerFile_iff place)] at hboth

/--
A host that differs in the headers differs in the second one only after the first
write, and nowhere after the second.
-/
theorem write_eq (h : texts.Writes root before runtime compiler first after)
    (hother : DifferOnlyAt (before.HeaderFile root) before other) :
    texts.write root .none other =
      (.ok [texts.written root .runtime, texts.written root .compiler], after) := by
  obtain ⟨otherFirst, hotherFirst, hsecond⟩ := hother.write h.runtime_leads h.first_eq
  obtain ⟨otherAfter, hotherAfter, hnowhere⟩ :=
    hsecond.write (h.runtime_differs.leadsTo_iff.mpr h.compiler_leads) h.after_eq
  have hsame : otherAfter = after := by
    apply hnowhere.eq_of_nowhere
    rintro place ⟨⟨hheader, hruntime⟩, hcompiler⟩
    rcases (h.headerFile_iff place).mp hheader with hname | hname
    · exact hruntime hname
    · exact hcompiler hname
  exact write_none_eq_ok_iff.mpr ⟨rfl, otherFirst, hotherFirst, hsame ▸ hotherAfter⟩

end Writes

end HeaderTexts

/-! ## The whole pass -/

namespace Settings

variable {settings : Settings} {report : Report}

/-- The input is none of the headers, so it reads the same where the headers differ. -/
theorem prepare_of_differOnlyAt {catalog : Catalog} {texts : HeaderTexts}
    (hprepare : settings.prepare input before = .ok (catalog, texts))
    (hinput : ∀ place, before.LeadsTo input place → ¬before.HeaderFile root place)
    (hother : DifferOnlyAt (before.HeaderFile root) before other) :
    settings.prepare input other = .ok (catalog, texts) := by
  obtain ⟨text, hread, hcatalog, htexts⟩ := prepare_eq_ok_iff.mp hprepare
  exact prepare_eq_ok_iff.mpr ⟨text, hother.readText_eq hread hinput, hcatalog, htexts⟩

/--
A pass that succeeds, and whose input is no header, leads to the same report and
the same host from every host that differs in the files of the headers only.  The
host it leads to is one of these, so a second pass changes nothing.
-/
theorem generate_forgets_output (hsound : before.Sound)
    (hinput : ∀ place, before.LeadsTo input place → ¬before.HeaderFile settings.root place)
    (h : settings.generate input .none before = (.ok report, after)) :
    settings.generate input .none after = (.ok report, after) ∧
      ∀ other, DifferOnlyAt (before.HeaderFile settings.root) before other →
        settings.generate input .none other = (.ok report, after) := by
  obtain ⟨catalog, texts, hprepare, hwrite, hscanned, hwrappers⟩ := exists_of_generate_none h
  obtain ⟨runtime, compiler, first, hwrites⟩ := HeaderTexts.exists_writes hsound hwrite
  obtain ⟨hfiles, -⟩ := HeaderTexts.write_none_eq_ok_iff.mp hwrite
  have hforgets (other : Host)
      (hother : DifferOnlyAt (before.HeaderFile settings.root) before other) :
      settings.generate input .none other = (.ok report, after) := by
    rw [generate_of_prepare_ok (prepare_of_differOnlyAt hprepare hinput hother),
      hwrites.write_eq hother, ← hfiles, ← hscanned, ← hwrappers]
    rfl
  exact ⟨hforgets after hwrites.differOnlyAt, hforgets⟩

/-! ## Passes that succeed -/

theorem exists_generate {catalog : Catalog} {texts : HeaderTexts} (hlinks : before.tree.LinkFree)
    (hfiles : before.NamesAreFiles)
    (hprepare : settings.prepare input before = .ok (catalog, texts))
    (hwritable : ∀ header : Header, before.Writable (header.pathIn settings.root)) :
    ∃ report after, settings.generate input .none before = (.ok report, after) ∧
      report.files =
        [texts.written settings.root .runtime, texts.written settings.root .compiler] := by
  obtain ⟨runtime, compiler, after, -, -, -, hwrite, -⟩ :=
    HeaderTexts.write_of_both_writable hlinks hfiles texts (hwritable .runtime)
      (hwritable .compiler)
  rw [generate_of_prepare_ok hprepare, hwrite]
  exact ⟨_, after, rfl, rfl⟩

end Settings

/-! ## An installation whose headers are one file -/

def sourceName : String := "in.def"

def sourceText : String := .ofList cabsSource

def sourceSettings : Settings := { delegated := ["cabs"], root := "" }

def sourceTexts : HeaderTexts := sourceSettings.textsOf [cabsWrapper]

def sourceHost : Host :=
  sharedHost.store [sourceName] (.file sourceText.toUTF8 (sharedHost.modeAt [sourceName]))

theorem sound_sharedHost : sharedHost.Sound := by
  have hparents : ∀ location ∈ oldFiles ++ outputDirectories,
      location.dropLast ∈ [] :: outputDirectories := by decide
  constructor
  · intro location node hnode
    by_cases htop : location = []
    · subst htop
      exact isDirectory_installedHost (by decide)
    · apply isDirectory_installedHost
      apply hparents
      by_contra hother
      rw [List.mem_append, not_or] at hother
      have hnone := node?_installedHost htop
      rw [if_neg hother.1, if_neg hother.2] at hnone
      exact absurd (hnone.symm.trans hnode) (by simp)
  · intro names hnames first hfirst second hsecond
    obtain rfl : names = oldFiles := by simpa [sharedHost] using hnames
    exact (node?_oldFile hfirst).trans (node?_oldFile hsecond).symm

theorem leadsTo_source : sharedHost.LeadsTo sourceName [sourceName] := by
  have hnames : FileTree.pathNames sourceName = [sourceName] := by decide
  have hrelative : ¬Path.isAbsolute sourceName := by decide
  refine FileTree.resolve_eq_ok_iff.mpr ⟨by constructor <;> decide, ?_⟩
  rw [FileTree.startOf, if_neg hrelative, hnames]
  refine FileTree.Leads.of_directories linkFree_installedHost (by decide) ?_
  intro depth hdepth
  obtain rfl : depth = 0 := by simpa using hdepth
  exact isDirectory_installedHost (by decide)

theorem not_isDirectory_source : ¬sharedHost.tree.isDirectory [sourceName] := by
  rw [FileTree.isDirectory_iff, show sharedHost.tree = installedHost.tree from rfl,
    node?_installedHost (by decide), if_neg (by decide), if_neg (by decide)]
  simp

theorem write_source : sharedHost.write sourceName sourceText = .ok sourceHost :=
  Host.write_eq_ok_iff.mpr ⟨[sourceName], leadsTo_source, not_isDirectory_source, rfl⟩

theorem overwritten_source : Host.Overwritten sharedHost [sourceName] sourceText sourceHost :=
  (Host.Overwritten.of_write namesAreFiles_sharedHost leadsTo_source write_source).2

theorem differOnlyAt_source :
    DifferOnlyAt (· ∈ sharedHost.namesOf [sourceName]) sharedHost sourceHost :=
  .of_write (sound_sharedHost.oneFileAt leadsTo_source not_isDirectory_source) leadsTo_source
    write_source

theorem namesOf_source : sharedHost.namesOf [sourceName] = [[sourceName]] := by decide

theorem sound_sourceHost : sourceHost.Sound := by
  have hdiffers := differOnlyAt_source
  rw [namesOf_source] at hdiffers
  constructor
  · intro location node hnode
    by_cases hsource : location = [sourceName]
    · subst hsource
      exact (hdiffers.sameShape.directory []).mp (isDirectory_installedHost (by decide))
    · rw [hdiffers.node?_eq (by simpa using hsource)] at hnode
      exact (hdiffers.sameShape.directory _).mp (sound_sharedHost.grounded _ _ hnode)
  · intro names hnames first hfirst second hsecond
    obtain rfl : names = oldFiles := by simpa [sourceHost, Host.store, sharedHost] using hnames
    have hother : ∀ name ∈ oldFiles, name ∉ [[sourceName]] := by decide
    rw [hdiffers.node?_eq (hother _ hfirst), hdiffers.node?_eq (hother _ hsecond)]
    exact sound_sharedHost.agree oldFiles (by simp [sharedHost]) _ hfirst _ hsecond

theorem leadsTo_header (header : Header) :
    sourceHost.LeadsTo (header.pathIn "") (FileTree.pathNames (header.pathIn "")) :=
  differOnlyAt_source.leadsTo_iff.mpr (leadsTo_installedHost header)

theorem writable_sourceHost (header : Header) : sourceHost.Writable (header.pathIn "") :=
  (overwritten_source.writable_iff differOnlyAt_source.sameShape).mpr
    (writable_installedHost header)

theorem namesOf_header (header : Header) :
    sourceHost.namesOf (FileTree.pathNames (header.pathIn "")) = oldFiles := by
  rw [differOnlyAt_source.namesOf_eq]
  cases header <;> decide

theorem oneFileAt_header (header : Header) :
    sourceHost.OneFileAt (FileTree.pathNames (header.pathIn "")) := by
  obtain ⟨location, hleads, hplace⟩ := writable_sourceHost header
  obtain rfl := (leadsTo_header header).unique hleads
  exact sound_sourceHost.oneFileAt hleads hplace

theorem headerFile_sourceHost (place : Location) :
    sourceHost.HeaderFile sourceSettings.root place ↔ place ∈ oldFiles := by
  change sourceHost.HeaderFile "" place ↔ _
  rw [Host.headerFile_iff (leadsTo_header .runtime) (leadsTo_header .compiler), namesOf_header,
    namesOf_header, or_self]

theorem source_not_headerFile (place : Location) (h : sourceHost.LeadsTo sourceName place) :
    ¬sourceHost.HeaderFile sourceSettings.root place := by
  obtain rfl := (differOnlyAt_source.leadsTo_iff.mp h).unique leadsTo_source
  rw [headerFile_sourceHost]
  decide

theorem prepare_sourceHost :
    sourceSettings.prepare sourceName sourceHost = .ok (cabsCatalog, sourceTexts) := by
  have hrendered : Rendered sourceSettings cabsCatalog sourceTexts :=
    rendered_cabsCatalog (by decide +kernel) rfl
  obtain ⟨mode, hnode⟩ := overwritten_source.held [sourceName] (sharedHost.mem_namesOf _)
  have hholds : sourceHost.Holds sourceName sourceText :=
    (differOnlyAt_source.leadsTo_iff.mpr leadsTo_source).holds hnode
  refine Settings.prepare_eq_ok_iff.mpr ⟨sourceText, hholds.readText_eq, ?_,
    hrendered.headerTexts_eq⟩
  rw [sourceText, String.toList_ofList, ofText_cabsSource]

theorem exists_generate_sourceHost :
    ∃ report after,
      sourceSettings.generate sourceName .none sourceHost = (.ok report, after) := by
  have hlinks := overwritten_source.linkFree linkFree_installedHost namesAreFiles_sharedHost
    not_isDirectory_source
  have hfiles := overwritten_source.namesAreFiles namesAreFiles_sharedHost
  obtain ⟨report, after, hgenerate, -⟩ :=
    Settings.exists_generate hlinks hfiles prepare_sourceHost writable_sourceHost
  exact ⟨report, after, hgenerate⟩

theorem generate_forgets_output_sourceHost :
    sourceHost.Sound ∧
      (∀ place, sourceHost.LeadsTo sourceName place →
        ¬sourceHost.HeaderFile sourceSettings.root place) ∧
      ∃ report after older,
        sourceSettings.generate sourceName .none sourceHost = (.ok report, after) ∧
        sourceHost.write (Header.runtime.pathIn "") "older" = .ok older ∧
        sourceSettings.generate sourceName .none after = (.ok report, after) ∧
        sourceSettings.generate sourceName .none older = (.ok report, after) := by
  obtain ⟨report, after, hgenerate⟩ := exists_generate_sourceHost
  obtain ⟨older, holder⟩ :
      ∃ older, sourceHost.write (Header.runtime.pathIn "") "older" = .ok older :=
    Host.exists_write_eq_ok_iff.mpr (writable_sourceHost .runtime)
  have hrewritten := DifferOnlyAt.of_write (oneFileAt_header .runtime) (leadsTo_header .runtime)
    holder
  have hheaders : sourceHost.HeaderFile sourceSettings.root =
      (· ∈ sourceHost.namesOf (FileTree.pathNames (Header.runtime.pathIn ""))) :=
    funext fun place => propext (by rw [headerFile_sourceHost, namesOf_header])
  obtain ⟨hagain, hforgets⟩ :=
    Settings.generate_forgets_output sound_sourceHost source_not_headerFile hgenerate
  exact ⟨sound_sourceHost, source_not_headerFile, report, after, older, hgenerate, holder,
    hagain, hforgets older (hheaders ▸ hrewritten)⟩

end BuiltinWrappers
