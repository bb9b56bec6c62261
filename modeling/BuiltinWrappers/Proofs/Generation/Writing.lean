import BuiltinWrappers.Proofs.Catalog.Registration
import BuiltinWrappers.Proofs.Generation.HookCalls
import BuiltinWrappers.Proofs.Generation.Rendering
import BuiltinWrappers.Proofs.Host.Writing

/-!
# What writing both headers changes

The two headers stand at different places under any root, and writing the first
leads no path elsewhere, so each can be written or not as it could before.  If
both can, their files hold the new texts under all their names and nothing else
is changed; if only the first can, it stays.
-/

namespace BuiltinWrappers

open Host (Overwritten)

/-! ## Two places under a root -/

def Header.fileName : Header → String
  | .runtime => "clang_builtins_wrapper.h"
  | .compiler => "clangBuiltinsWrappedSet.h"

theorem Header.entryName_fileName (header : Header) : FileTree.EntryName header.fileName := by
  cases header <;> decide

theorem Header.place_toList (header : Header) :
    ∃ front, header.place.toList = front ++ '/' :: header.fileName.toList := by
  cases header with
  | runtime => exact ⟨"runtime/include/llvm".toList, by decide⟩
  | compiler => exact ⟨"compiler/include".toList, by decide⟩

theorem Header.pathIn_toList (header : Header) (root : String) :
    ∃ front, (header.pathIn root).toList = front ++ '/' :: header.fileName.toList := by
  obtain ⟨front, hplace⟩ := header.place_toList
  unfold Header.pathIn Path.join
  split
  · exact ⟨front, hplace⟩
  · split
    · exact ⟨root.toList ++ front, by simp [hplace]⟩
    · exact ⟨root.toList ++ '/' :: front, by simp [hplace]⟩

theorem Header.getLast?_pathNames (header : Header) (root : String) :
    (FileTree.pathNames (header.pathIn root)).getLast? = some header.fileName := by
  obtain ⟨front, hpath⟩ := header.pathIn_toList root
  have hslash : '/' ∉ header.fileName.toList := by cases header <;> decide
  rw [FileTree.pathNames, hpath, List.splitOn_append_cons_self,
    List.splitOn_eq_singleton hslash]
  simp

theorem runtime_ne_compiler {host : Host} (hlinks : host.tree.LinkFree) {root : String}
    {runtime compiler : Location}
    (hruntime : host.LeadsTo (Header.runtime.pathIn root) runtime)
    (hcompiler : host.LeadsTo (Header.compiler.pathIn root) compiler) :
    runtime ≠ compiler := by
  rintro rfl
  have hfirst := FileTree.getLast?_of_resolve hlinks hruntime
    (Header.runtime.getLast?_pathNames root) Header.runtime.entryName_fileName
  have hsecond := FileTree.getLast?_of_resolve hlinks hcompiler
    (Header.compiler.getLast?_pathNames root) Header.compiler.entryName_fileName
  rw [hfirst] at hsecond
  exact absurd (Option.some.inj hsecond) (by decide)

/-! ## Both headers -/

namespace HeaderTexts

/--
Both files hold their texts under all their names; all else is as before.  What
names both files holds the text that was written last.
-/
structure BothOverwritten (texts : HeaderTexts) (before : Host)
    (runtime compiler : Location) (after : Host) : Prop where
  compiler_held : ∀ name ∈ before.namesOf compiler, ∃ mode,
    after.tree.node? name = some (.file texts.compiler.toUTF8 mode)
  runtime_held : ∀ name ∈ before.namesOf runtime, name ∉ before.namesOf compiler →
    ∃ mode, after.tree.node? name = some (.file texts.runtime.toUTF8 mode)
  kept : ∀ place, place ∉ before.namesOf runtime → place ∉ before.namesOf compiler →
    after.tree.node? place = before.tree.node? place
  leads : ∀ path place, after.LeadsTo path place ↔ before.LeadsTo path place
  rest : after = { before with tree := after.tree }

/-- Both paths hold their texts, and nothing stands otherwise than before elsewhere. -/
structure OnlyHeadersChanged (texts : HeaderTexts) (root : String) (before after : Host) :
    Prop where
  runtime_holds : after.Holds (Header.runtime.pathIn root) texts.runtime
  compiler_holds : after.Holds (Header.compiler.pathIn root) texts.compiler
  kept : ∀ place, ¬before.LeadsTo (Header.runtime.pathIn root) place →
    ¬before.LeadsTo (Header.compiler.pathIn root) place →
    after.tree.node? place = before.tree.node? place

variable {texts : HeaderTexts} {root path : String} {before first after : Host}
  {runtime compiler : Location}

namespace BothOverwritten

theorem of_overwritten (hfirst : Overwritten before runtime texts.runtime first)
    (hfirstShape : FileTree.SameShape before.tree first.tree)
    (hsecond : Overwritten first compiler texts.compiler after)
    (hsecondShape : FileTree.SameShape first.tree after.tree) :
    BothOverwritten texts before runtime compiler after := by
  have hnames := congrFun hfirst.namesOf_eq compiler
  constructor
  · intro name hname
    exact hsecond.held name (hnames ▸ hname)
  · intro name hname hother
    rw [hsecond.kept name (hnames ▸ hother)]
    exact hfirst.held name hname
  · intro place hruntime hcompiler
    rw [hsecond.kept place (hnames ▸ hcompiler), hfirst.kept place hruntime]
  · intro path place
    rw [hsecond.leadsTo_iff hsecondShape, hfirst.leadsTo_iff hfirstShape]
  · rw [hsecond.rest, hfirst.rest]

theorem holds_compiler (h : BothOverwritten texts before runtime compiler after)
    {name : Location} (hname : name ∈ before.namesOf compiler)
    (hpath : before.LeadsTo path name) : after.Holds path texts.compiler := by
  obtain ⟨mode, hnode⟩ := h.compiler_held name hname
  exact ((h.leads path name).mpr hpath).holds hnode

theorem holds_runtime (h : BothOverwritten texts before runtime compiler after)
    (hpath : before.LeadsTo path runtime) (hapart : runtime ∉ before.namesOf compiler) :
    after.Holds path texts.runtime := by
  obtain ⟨mode, hnode⟩ := h.runtime_held runtime (before.mem_namesOf runtime) hapart
  exact ((h.leads path runtime).mpr hpath).holds hnode

theorem onlyHeadersChanged (h : BothOverwritten texts before runtime compiler after)
    (hruntime : before.LeadsTo (Header.runtime.pathIn root) runtime)
    (hcompiler : before.LeadsTo (Header.compiler.pathIn root) compiler)
    (hne : runtime ≠ compiler) (hruntimeNames : before.namesOf runtime = [runtime])
    (hcompilerNames : before.namesOf compiler = [compiler]) :
    texts.OnlyHeadersChanged root before after := by
  constructor
  · refine h.holds_runtime hruntime ?_
    rwa [hcompilerNames, List.mem_singleton]
  · exact h.holds_compiler (before.mem_namesOf compiler) hcompiler
  · intro place hnotRuntime hnotCompiler
    apply h.kept
    · rw [hruntimeNames, List.mem_singleton]
      rintro rfl
      exact hnotRuntime hruntime
    · rw [hcompilerNames, List.mem_singleton]
      rintro rfl
      exact hnotCompiler hcompiler

end BothOverwritten

/-- A write that fails changes nothing; one that succeeds leads no path elsewhere. -/
theorem writeOne_cases (hlinks : before.tree.LinkFree) (hfiles : before.NamesAreFiles)
    (texts : HeaderTexts) (root : String) (header : Header) :
    (¬before.Writable (header.pathIn root) ∧
      ∃ cause, texts.writeOne root header before = .error cause) ∨
    ∃ location after, before.LeadsTo (header.pathIn root) location ∧
      ¬before.tree.isDirectory location ∧
      texts.writeOne root header before = .ok after ∧
      Overwritten before location (texts.text header) after ∧
      FileTree.SameShape before.tree after.tree := by
  unfold writeOne
  cases hwrite : before.write (header.pathIn root) (texts.text header) with
  | error cause =>
      refine .inl ⟨?_, cause, rfl⟩
      intro hwritable
      obtain ⟨after, hafter⟩ : ∃ after, before.write (header.pathIn root) (texts.text header) =
          .ok after := Host.exists_write_eq_ok_iff.mpr hwritable
      simp [hwrite] at hafter
  | ok after =>
      obtain ⟨location, hleads, hplace, -⟩ := Host.write_eq_ok_iff.mp hwrite
      obtain ⟨-, hoverwritten⟩ := Overwritten.of_write hfiles hleads hwrite
      exact .inr ⟨location, after, hleads, hplace, rfl, hoverwritten,
        hoverwritten.sameShape hlinks hfiles hplace⟩

theorem write_of_not_writable (hlinks : before.tree.LinkFree) (hfiles : before.NamesAreFiles)
    (texts : HeaderTexts) (h : ¬before.Writable (Header.runtime.pathIn root)) :
    ∃ cause, texts.write root .none before = (.error (.inputOutput cause), before) := by
  rcases writeOne_cases hlinks hfiles texts root .runtime with
    ⟨-, cause, hwrite⟩ | ⟨location, after, hleads, hplace, -⟩
  · exact ⟨cause, write_of_runtime_error hwrite .none⟩
  · exact absurd ⟨location, hleads, hplace⟩ h

theorem write_of_runtime_writable (hlinks : before.tree.LinkFree)
    (hfiles : before.NamesAreFiles) (texts : HeaderTexts)
    (hruntime : before.Writable (Header.runtime.pathIn root))
    (hcompiler : ¬before.Writable (Header.compiler.pathIn root)) :
    ∃ cause runtime after, before.LeadsTo (Header.runtime.pathIn root) runtime ∧
      texts.write root .none before = (.error (.inputOutput cause), after) ∧
      Overwritten before runtime texts.runtime after ∧
      after.Holds (Header.runtime.pathIn root) texts.runtime := by
  rcases writeOne_cases hlinks hfiles texts root .runtime with
    ⟨hstuck, -⟩ | ⟨runtime, first, hleads, hplace, hfirst, hoverwritten, hshape⟩
  · exact absurd hruntime hstuck
  -- The second write meets a host of the same shape, where the same paths can be written.
  rcases writeOne_cases (hoverwritten.linkFree hlinks hfiles hplace)
      (hoverwritten.namesAreFiles hfiles) texts root .compiler with
    ⟨-, cause, hsecond⟩ | ⟨compiler, after, hsecondLeads, hsecondPlace, -⟩
  · obtain ⟨mode, hnode⟩ := hoverwritten.held runtime (before.mem_namesOf runtime)
    exact ⟨cause, runtime, first, hleads, write_of_compiler_error hfirst hsecond .none,
      hoverwritten, ((hoverwritten.leadsTo_iff hshape).mpr hleads).holds hnode⟩
  · exact absurd ((hoverwritten.writable_iff hshape).mp ⟨compiler, hsecondLeads, hsecondPlace⟩)
      hcompiler

theorem write_of_both_writable (hlinks : before.tree.LinkFree)
    (hfiles : before.NamesAreFiles) (texts : HeaderTexts)
    (hruntime : before.Writable (Header.runtime.pathIn root))
    (hcompiler : before.Writable (Header.compiler.pathIn root)) :
    ∃ runtime compiler after, before.LeadsTo (Header.runtime.pathIn root) runtime ∧
      before.LeadsTo (Header.compiler.pathIn root) compiler ∧ runtime ≠ compiler ∧
      texts.write root .none before =
        (.ok [texts.written root .runtime, texts.written root .compiler], after) ∧
      BothOverwritten texts before runtime compiler after := by
  rcases writeOne_cases hlinks hfiles texts root .runtime with
    ⟨hstuck, -⟩ | ⟨runtime, first, hleads, hplace, hfirst, hoverwritten, hshape⟩
  · exact absurd hruntime hstuck
  rcases writeOne_cases (hoverwritten.linkFree hlinks hfiles hplace)
      (hoverwritten.namesAreFiles hfiles) texts root .compiler with
    ⟨hstuck, -⟩ | ⟨compiler, after, hsecondLeads, -, hsecond, hlast, hlastShape⟩
  · exact absurd ((hoverwritten.writable_iff hshape).mpr hcompiler) hstuck
  have hcompilerLeads := (hoverwritten.leadsTo_iff hshape).mp hsecondLeads
  exact ⟨runtime, compiler, after, hleads, hcompilerLeads,
    runtime_ne_compiler hlinks hleads hcompilerLeads, write_of_ok hfirst hsecond .none,
    .of_overwritten hoverwritten hshape hlast hlastShape⟩

end HeaderTexts

/-! ## The report -/

theorem Settings.generate_report {settings : Settings} {input : String} {host after : Host}
    {report : Report} (h : settings.generate input .none host = (.ok report, after)) :
    ∃ text texts, host.readText input = .ok text ∧
      settings.headerTexts (.ofText text.toList) = .ok texts ∧
      texts.write settings.root .none host = (.ok report.files, after) ∧
      report.byteCount = texts.runtime.utf8ByteSize + texts.compiler.utf8ByteSize ∧
      report.scanned =
        ((Catalog.declarationsOf text.toList).map Declaration.name).dedup.length ∧
      report.wrappers = settings.delegated.length := by
  obtain ⟨catalog, texts, hprepare, hwrite, hscanned, hwrappers⟩ := exists_of_generate_none h
  obtain ⟨text, hread, rfl, htexts⟩ := prepare_eq_ok_iff.mp hprepare
  obtain ⟨hfiles, -⟩ := HeaderTexts.write_none_eq_ok_iff.mp hwrite
  obtain ⟨wrappers, hwraps, rfl⟩ := headerTexts_eq_ok_iff.mp htexts
  refine ⟨text, _, hread, htexts, hwrite, ?_, ?_, ?_⟩
  · rw [Report.byteCount, hfiles]
    simp [HeaderTexts.written, HeaderTexts.text]
  · rw [hscanned, Catalog.ofText, Catalog.size_ofDeclarations]
  · rw [hwrappers, ← hwraps.names_eq, List.length_map]
    rfl

/-! ## The three outcomes -/

/--
Writing without a hook ends in one of three ways, which the paths alone decide.
Files that have further names are written under all of them, and no other place
is touched.  The report of a pass tells the sizes of what was written.
-/
theorem HeaderTexts.write_outcomes {before : Host} (hlinks : before.tree.LinkFree)
    (hfiles : before.NamesAreFiles) (texts : HeaderTexts) (root : String) :
    (¬before.Writable (Header.runtime.pathIn root) →
      ∃ cause, texts.write root .none before = (.error (.inputOutput cause), before)) ∧
    (before.Writable (Header.runtime.pathIn root) →
      ¬before.Writable (Header.compiler.pathIn root) →
      ∃ cause runtime after, before.LeadsTo (Header.runtime.pathIn root) runtime ∧
        texts.write root .none before = (.error (.inputOutput cause), after) ∧
        Overwritten before runtime texts.runtime after ∧
        after.Holds (Header.runtime.pathIn root) texts.runtime) ∧
    (before.Writable (Header.runtime.pathIn root) →
      before.Writable (Header.compiler.pathIn root) →
      ∃ runtime compiler after, before.LeadsTo (Header.runtime.pathIn root) runtime ∧
        before.LeadsTo (Header.compiler.pathIn root) compiler ∧ runtime ≠ compiler ∧
        texts.write root .none before =
          (.ok [texts.written root .runtime, texts.written root .compiler], after) ∧
        BothOverwritten texts before runtime compiler after ∧
        after.Holds (Header.compiler.pathIn root) texts.compiler ∧
        (runtime ∉ before.namesOf compiler →
          after.Holds (Header.runtime.pathIn root) texts.runtime ∧
          ∀ file ∈ [texts.written root .runtime, texts.written root .compiler],
            after.fileSize? file.path = some file.bytes) ∧
        (before.namesOf runtime = [runtime] → before.namesOf compiler = [compiler] →
          texts.OnlyHeadersChanged root before after)) ∧
    ∀ settings input report after,
      Settings.generate settings input .none before = (.ok report, after) →
      ∃ text generated, before.readText input = .ok text ∧
        settings.headerTexts (.ofText text.toList) = .ok generated ∧
        generated.write settings.root .none before = (.ok report.files, after) ∧
        report.byteCount = generated.runtime.utf8ByteSize + generated.compiler.utf8ByteSize ∧
        report.scanned =
          ((Catalog.declarationsOf text.toList).map Declaration.name).dedup.length ∧
        report.wrappers = settings.delegated.length := by
  refine ⟨write_of_not_writable hlinks hfiles texts,
    write_of_runtime_writable hlinks hfiles texts, ?_, fun _ _ _ _ => Settings.generate_report⟩
  intro hruntime hcompiler
  obtain ⟨runtime, compiler, after, hruntimeLeads, hcompilerLeads, hne, hwrite, hboth⟩ :=
    write_of_both_writable hlinks hfiles texts hruntime hcompiler
  have hcompilerHolds := hboth.holds_compiler (before.mem_namesOf compiler) hcompilerLeads
  refine ⟨runtime, compiler, after, hruntimeLeads, hcompilerLeads, hne, hwrite, hboth,
    hcompilerHolds, ?_, hboth.onlyHeadersChanged hruntimeLeads hcompilerLeads hne⟩
  intro hapart
  have hruntimeHolds := hboth.holds_runtime hruntimeLeads hapart
  refine ⟨hruntimeHolds, ?_⟩
  simp only [List.forall_mem_cons, List.not_mem_nil, false_implies, implies_true, and_true]
  exact ⟨hruntimeHolds.fileSize?_eq, hcompilerHolds.fileSize?_eq⟩

/-! ## An installation -/

def outputDirectories : List Location :=
  [["runtime"], ["runtime", "include"], ["runtime", "include", "llvm"],
    ["compiler"], ["compiler", "include"]]

def oldFiles : List Location :=
  [["runtime", "include", "llvm", "clang_builtins_wrapper.h"],
    ["compiler", "include", "clangBuiltinsWrappedSet.h"], ["kept.h"]]

def installedHost : Host where
  tree := oldFiles.foldl (fun tree name => tree.set name (.file "old".toUTF8 0o644))
    (outputDirectories.foldl (fun tree name => tree.set name (.directory 0o755)) .empty)

/-- The same installation, but all the files are one. -/
def sharedHost : Host := { installedHost with aliases := [oldFiles] }

def newTexts : HeaderTexts := ⟨"new", "new set", 0⟩

theorem node?_installedHost {place : Location} (hplace : place ≠ []) :
    installedHost.tree.node? place =
      if place ∈ oldFiles then some (.file "old".toUTF8 0o644)
      else if place ∈ outputDirectories then some (.directory 0o755) else none := by
  rw [installedHost, Host.node?_foldl_set hplace, Host.node?_foldl_set hplace]
  simp [FileTree.node?, FileTree.empty, hplace]

theorem linkFree_installedHost : installedHost.tree.LinkFree := by
  intro place target
  by_cases hplace : place = []
  · simp [hplace, FileTree.node?, FileTree.topDirectory]
  · rw [node?_installedHost hplace]
    split
    · simp
    · split <;> simp

theorem node?_oldFile {place : Location} (h : place ∈ oldFiles) :
    installedHost.tree.node? place = some (.file "old".toUTF8 0o644) := by
  have hplace : place ≠ [] := by
    revert place
    decide
  rw [node?_installedHost hplace, if_pos h]

theorem isDirectory_installedHost {place : Location} (h : place ∈ [] :: outputDirectories) :
    installedHost.tree.isDirectory place := by
  rcases List.mem_cons.mp h with rfl | hmem
  · rfl
  · have hother : place ≠ [] ∧ place ∉ oldFiles := by
      revert place
      decide
    have hnode : installedHost.tree.node? place = some (.directory 0o755) := by
      rw [node?_installedHost hother.1, if_neg hother.2, if_pos hmem]
    exact FileTree.isDirectory_iff.mpr ⟨_, hnode⟩

theorem leadsTo_installedHost (header : Header) :
    installedHost.LeadsTo (header.pathIn "") (FileTree.pathNames (header.pathIn "")) := by
  have hrelative : ¬Path.isAbsolute (header.pathIn "") := by cases header <;> decide
  refine FileTree.resolve_eq_ok_iff.mpr ⟨?_, ?_⟩
  · cases header <;> constructor <;> decide
  · rw [FileTree.startOf, if_neg hrelative]
    refine FileTree.Leads.of_directories linkFree_installedHost ?_ ?_
    · intro name hname
      revert name
      cases header <;> decide
    · intro depth hdepth
      apply isDirectory_installedHost
      revert depth
      cases header <;> decide

theorem writable_installedHost (header : Header) :
    installedHost.Writable (header.pathIn "") := by
  refine ⟨_, leadsTo_installedHost header, ?_⟩
  rw [FileTree.isDirectory_iff, node?_oldFile (by cases header <;> decide)]
  simp

theorem namesAreFiles_sharedHost : sharedHost.NamesAreFiles := by
  intro names hnames name hname
  obtain rfl : names = oldFiles := by simpa [sharedHost] using hnames
  exact ⟨_, _, node?_oldFile hname⟩

theorem write_outcomes_installedHost :
    installedHost.tree.LinkFree ∧ installedHost.NamesAreFiles ∧
      ∃ files after, newTexts.write "" .none installedHost = (.ok files, after) ∧
        newTexts.OnlyHeadersChanged "" installedHost after := by
  have hfiles : installedHost.NamesAreFiles := by
    intro names hnames
    simp [installedHost] at hnames
  obtain ⟨-, -, hboth, -⟩ := HeaderTexts.write_outcomes linkFree_installedHost hfiles newTexts ""
  obtain ⟨runtime, compiler, after, -, -, -, hwrite, -, -, -, honly⟩ :=
    hboth (writable_installedHost .runtime) (writable_installedHost .compiler)
  exact ⟨linkFree_installedHost, hfiles, _, after, hwrite, honly rfl rfl⟩

theorem not_onlyHeadersChanged_sharedHost :
    ∃ files after, newTexts.write "" .none sharedHost = (.ok files, after) ∧
      ¬after.Holds (Header.runtime.pathIn "") newTexts.runtime ∧
      ¬newTexts.OnlyHeadersChanged "" sharedHost after := by
  have hlinks : sharedHost.tree.LinkFree := linkFree_installedHost
  have hleads (header : Header) : sharedHost.LeadsTo (header.pathIn "")
      (FileTree.pathNames (header.pathIn "")) := leadsTo_installedHost header
  obtain ⟨runtime, compiler, after, -, hcompiler, -, hwrite, hboth⟩ :=
    HeaderTexts.write_of_both_writable hlinks namesAreFiles_sharedHost newTexts
      (writable_installedHost .runtime) (writable_installedHost .compiler)
  obtain rfl := hcompiler.unique (hleads .compiler)
  have hnames : sharedHost.namesOf (FileTree.pathNames (Header.compiler.pathIn "")) = oldFiles :=
    by decide
  refine ⟨_, after, hwrite, ?_, ?_⟩
  · intro hholds
    have hsecond := hboth.holds_compiler (hnames ▸ by decide) (hleads .runtime)
    have hsame : newTexts.runtime.toUTF8 = newTexts.compiler.toUTF8 :=
      Except.ok.inj (hholds.symm.trans hsecond)
    exact absurd (congrArg ByteArray.size hsame) (by decide)
  · intro honly
    have hkept := honly.kept ["kept.h"]
      (fun hruntime => absurd (hruntime.unique (hleads .runtime)) (by decide))
      (fun hcompiler => absurd (hcompiler.unique (hleads .compiler)) (by decide))
    obtain ⟨mode, hnode⟩ := hboth.compiler_held ["kept.h"] (hnames ▸ by decide)
    have hsame := hnode.symm.trans (hkept.trans (node?_oldFile (by decide)))
    have hcontent := (Node.file.inj (Option.some.inj hsame)).1
    exact absurd (congrArg ByteArray.size hcontent) (by decide)

end BuiltinWrappers
