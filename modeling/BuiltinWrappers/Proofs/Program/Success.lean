import BuiltinWrappers.Proofs.Generation.Repetition
import BuiltinWrappers.Proofs.Program.EarliestFault
import Mathlib

/-!
# Runs that succeed

A run whose stages all succeed ends well if both headers can be written.  This is so
in every installation that has the directories of the headers, an input that declares
what the settings delegate, and any other files besides.
-/

namespace BuiltinWrappers

/-! ## From the stages to the end -/

theorem Invocation.exists_runWith {invocation : Invocation} {host : Host} {input text root : String}
    {settings : Settings} {texts : HeaderTexts} (license : License)
    (hlinks : host.tree.LinkFree) (hfiles : host.NamesAreFiles)
    (hskip : invocation.skipLicense) (hinput : invocation.input = some input)
    (hsettings : invocation.HasSettings host settings) (hroot : invocation.FindsRoot host root)
    (hread : host.readText input = .ok text)
    (htexts : settings.headerTexts (.ofText text.toList) = .ok texts)
    (hwritable : ∀ header : Header, host.Writable (header.pathIn root)) :
    ∃ report after, invocation.runWith license host = (.ok report, after) ∧
      report.files = [texts.written root .runtime, texts.written root .compiler] := by
  have hprepare : { settings with root }.prepare input host =
      .ok (.ofText text.toList, texts) :=
    Settings.prepare_eq_ok_iff.mpr ⟨text, hread, rfl, htexts⟩
  have hgenerate := Settings.exists_generate hlinks hfiles hprepare hwritable
  have hhook : invocation.hook license root host = .none := if_pos hskip
  have hfound : invocation.settings host = .ok { settings with root } := by
    rw [hsettings.settings_eq, hroot.findRoot_eq]
    rfl
  simpa only [Invocation.runWith, hinput, hfound, hhook] using hgenerate

/-! ## Installations -/

def singleSettingsText : String := "[builtins]\ndelegated = [\"cabs\"]\n"

def singleSettings : Settings := { delegated := ["cabs"] }

def singleTexts : HeaderTexts := singleSettings.textsOf [cabsWrapper]

/-- An input that declares one function to be wrapped, and settings that delegate it. -/
def singleFiles : List (Location × String) :=
  [(["in.def"], sourceText), (["c.toml"], singleSettingsText)]

def singleSettingsTable : Toml.Table :=
  [("builtins", .table [("delegated", .array [.string "cabs"])])]

theorem document?_singleSettingsText :
    Toml.document? singleSettingsText.toList = some singleSettingsTable := by
  cbv

theorem ofText_singleSettingsText : Settings.ofText singleSettingsText = .ok singleSettings := by
  rw [Settings.ofText, document?_singleSettingsText]
  rfl

theorem headerTexts_singleSettings :
    singleSettings.headerTexts (.ofText sourceText.toList) = .ok singleTexts := by
  rw [sourceText, String.toList_ofList, ofText_cabsSource]
  exact (rendered_cabsCatalog (by decide +kernel) rfl).headerTexts_eq

namespace Host.FitTogether

variable {files : List (Location × String)} {aliases : List (List Location)}

theorem leadsTo_header (h : FitTogether outputDirectories files aliases) (header : Header) :
    (built outputDirectories files aliases).LeadsTo (header.pathIn ".")
      (FileTree.pathNames header.place) := by
  have hdot : ∀ name ∈ ["."], name = "" ∨ name = "." := by decide
  cases header <;>
    exact h.leadsTo (by constructor <;> decide) hdot (by decide) (by decide) (by decide)

theorem writable_header (h : FitTogether outputDirectories files aliases) (header : Header) :
    (built outputDirectories files aliases).Writable (header.pathIn ".") := by
  refine writable_built (h.leadsTo_header header) ?_
  cases header <;> decide

variable (hinput : files.lookup ["in.def"] = some sourceText)
  (hsettings : files.lookup ["c.toml"] = some singleSettingsText)
include hinput in
theorem readText_input (h : FitTogether outputDirectories files aliases) :
    (built outputDirectories files aliases).readText "in.def" = .ok sourceText :=
  (h.holds (h.leadsTo_name (by constructor <;> decide) (by constructor <;> decide) (by decide))
    hinput).readText_eq

include hsettings in
theorem ofFile_settings (h : FitTogether outputDirectories files aliases) :
    Settings.ofFile (built outputDirectories files aliases) "c.toml" = .ok singleSettings := by
  have hread := (h.holds (h.leadsTo_name (by constructor <;> decide) (by constructor <;> decide)
    (by decide)) hsettings).readText_eq
  simp only [Settings.ofFile, hread, ofText_singleSettingsText]

include hinput hsettings in
theorem exists_runWith (h : FitTogether outputDirectories files aliases)
    {invocation : Invocation} (license : License) (hskip : invocation.skipLicense)
    (hgiven : invocation.input = some "in.def")
    (hpath : invocation.settingsFile = some "c.toml")
    (hroot : invocation.FindsRoot (built outputDirectories files aliases) ".") :
    ∃ report after,
      invocation.runWith license (built outputDirectories files aliases) = (.ok report, after) ∧
      report.files = [singleTexts.written "." .runtime, singleTexts.written "." .compiler] :=
  invocation.exists_runWith license linkFree_built h.namesAreFiles hskip hgiven
    (.file hpath (h.ofFile_settings hsettings)) hroot (h.readText_input hinput)
    headerTexts_singleSettings h.writable_header

end Host.FitTogether

end BuiltinWrappers
