import BuiltinWrappers.Proofs.Header.CompilerReading
import BuiltinWrappers.Proofs.Settings.Schema
import BuiltinWrappers.Proofs.Toml.Writing

/-!
# Settings files that are written

A settings file gives some of the three settings, each in its section, and the
sections in either order.  Whatever the settings are, as long as they are valid,
a file that is written from them gives the settings picked and leaves the others
as they are by default.
-/

namespace BuiltinWrappers

open Toml (BareKey Value WrittenField WrittenSection lookup? writtenText)

/-! ## Names between double quotes -/

theorem isLiteral_of_isIdentifierCharacter {character : Char}
    (h : isIdentifierCharacter character) : Toml.isLiteral character := by
  have hne {other : Char} (hother : isIdentifierCharacter other = false) : character ≠ other := by
    rintro rfl
    exact Bool.noConfusion (hother.symm.trans h)
  have hdelete : character ≠ '\x7f' := hne (by decide)
  have hquote : character ≠ '"' := hne (by decide)
  have hescape : character ≠ '\\' := hne (by decide)
  have hspace : ' ' ≤ character := by
    by_cases hunderscore : character = '_'
    · subst hunderscore
      decide
    · simp only [isIdentifierCharacter, Char.isAlphanum, Char.isAlpha, Char.isUpper, Char.isLower,
        Char.isDigit] at h
      rw [Char.le_def]
      grind
  simp [Toml.isLiteral, Toml.isLineCharacter, hdelete, hquote, hescape, hspace]

theorem value?_quotedLine (depth : Nat) {name : String} (h : isIdentifier name)
    (rest : List Char) :
    Toml.value? depth (quotedLine name ++ rest) = some (.string name, rest) := by
  obtain ⟨first, tail, hcons, -⟩ := isIdentifier_iff.mp h
  have hne : name.toList ≠ [] := by simp [hcons]
  have hliteral : ∀ character ∈ name.toList, Toml.isLiteral character := fun character hmem =>
    isLiteral_of_isIdentifierCharacter (isIdentifierCharacter_of_mem h hmem)
  simpa [quotedLine] using Toml.value?_quoted depth hne hliteral rest

namespace Overrides

/-! ## The text of a file -/

def builtinsKey : BareKey := .ofText "builtins" (by decide) (by decide)

def delegatedKey : BareKey := .ofText "delegated" (by decide) (by decide)

def rewrittenKey : BareKey := .ofText "rewritten" (by decide) (by decide)

def outputKey : BareKey := .ofText "output" (by decide) (by decide)

def wrapperPrefixKey : BareKey := .ofText "wrapper_prefix" (by decide) (by decide)

def namesText (names : List String) : List Char :=
  '[' :: ([',', ' '].intercalate (names.map quotedLine) ++ [']'])

def namesField (key : BareKey) (names : List String) : WrittenField :=
  ⟨key, namesText names, namesValue names⟩

def textField (key : BareKey) (text : String) : WrittenField :=
  ⟨key, quotedLine text, .string text⟩

def builtinsWritten (overrides : Overrides) : WrittenSection where
  name := builtinsKey
  fields := (overrides.delegated.map (namesField delegatedKey)).toList ++
    (overrides.rewritten.map (namesField rewrittenKey)).toList

def outputWritten (overrides : Overrides) : WrittenSection where
  name := outputKey
  fields := (overrides.wrapperPrefix.map (textField wrapperPrefixKey)).toList

def sectionsWritten (overrides : Overrides) (outputFirst : Bool) : List WrittenSection :=
  let sections := [overrides.builtinsWritten, overrides.outputWritten]
  (if outputFirst then sections.reverse else sections).filter (·.fields ≠ [])

def written (overrides : Overrides) (outputFirst : Bool) : String :=
  .ofList (writtenText (overrides.sectionsWritten outputFirst))

example : written ⟨some ["cabs", "conj"], some [], some "w_"⟩ false =
    "[builtins]\ndelegated = [\"cabs\", \"conj\"]\nrewritten = []\n\n" ++
      "[output]\nwrapper_prefix = \"w_\"\n" := by decide

/-! ## Reading it -/

/-- All names that are given, the prefix among them, are identifiers. -/
structure Valid (overrides : Overrides) : Prop where
  delegated : ∀ names ∈ overrides.delegated, ∀ name ∈ names, isIdentifier name
  rewritten : ∀ names ∈ overrides.rewritten, ∀ name ∈ names, isIdentifier name
  wrapperPrefix : ∀ text ∈ overrides.wrapperPrefix, isIdentifier text

theorem readable_namesField (key : BareKey) {names : List String}
    (h : ∀ name ∈ names, isIdentifier name) : (namesField key names).Readable where
  start := ⟨'[', _, rfl, by decide⟩
  read := by
    intro rest
    have hstart : ∀ name ∈ names, ∃ first text, quotedLine name = first :: text ∧
        Toml.isSolid first ∧ first ≠ ']' :=
      fun name _ => ⟨'"', _, rfl, by decide, by decide⟩
    have hread : ∀ name ∈ names, ∀ rest,
        Toml.value? 79 (quotedLine name ++ rest) = some (Value.string name, rest) :=
      fun name hname rest => value?_quotedLine 79 (h name hname) rest
    have hspaces : ∀ character ∈ [], Toml.isSpace character := by simp
    have hitems := Toml.items?_intercalate (by decide) (by decide) hstart hread hspaces
      ('\n' :: rest)
    have htext : (namesField key names).text ++ '\n' :: rest =
        '[' :: ([',', ' '].intercalate (names.map quotedLine) ++ ']' :: '\n' :: rest) := by
      simp [namesField, namesText]
    rw [htext, show Toml.deepestNesting = 79 + 1 from rfl, Toml.value?]
    simp only [List.nil_append] at hitems
    simp [hitems, namesField, namesValue]

theorem readable_textField (key : BareKey) {text : String} (h : isIdentifier text) :
    (textField key text).Readable where
  start := ⟨'"', _, rfl, by decide⟩
  read := fun rest => value?_quotedLine _ h ('\n' :: rest)

theorem mem_sectionsWritten {overrides : Overrides} {outputFirst : Bool}
    {written : WrittenSection} (h : written ∈ overrides.sectionsWritten outputFirst) :
    written = overrides.builtinsWritten ∨ written = overrides.outputWritten := by
  have hsection := List.mem_of_mem_filter h
  cases outputFirst with
  | false => simpa using hsection
  | true => simpa [or_comm] using hsection

theorem readable_sectionsWritten {overrides : Overrides} (h : overrides.Valid)
    (outputFirst : Bool) : ∀ written ∈ overrides.sectionsWritten outputFirst, written.Readable := by
  intro written hwritten field hfield
  rcases mem_sectionsWritten hwritten with rfl | rfl
  · rcases List.mem_append.mp hfield with hdelegated | hrewritten
    · obtain ⟨names, hnames, rfl⟩ := Option.map_eq_some_iff.mp (Option.mem_toList.mp hdelegated)
      exact readable_namesField delegatedKey (h.delegated names hnames)
    · obtain ⟨names, hnames, rfl⟩ := Option.map_eq_some_iff.mp (Option.mem_toList.mp hrewritten)
      exact readable_namesField rewrittenKey (h.rewritten names hnames)
  · obtain ⟨text, htext, rfl⟩ := Option.map_eq_some_iff.mp (Option.mem_toList.mp hfield)
    exact readable_textField wrapperPrefixKey (h.wrapperPrefix text htext)

theorem pairs_builtinsWritten (overrides : Overrides) :
    overrides.builtinsWritten.pairs =
      (overrides.delegated.map fun names => ("delegated", namesValue names)).toList ++
        (overrides.rewritten.map fun names => ("rewritten", namesValue names)).toList := by
  obtain ⟨delegated, rewritten, wrapperPrefix⟩ := overrides
  cases delegated <;> cases rewritten <;> rfl

theorem pairs_outputWritten (overrides : Overrides) :
    overrides.outputWritten.pairs =
      (overrides.wrapperPrefix.map fun text => ("wrapper_prefix", Value.string text)).toList := by
  obtain ⟨delegated, rewritten, wrapperPrefix⟩ := overrides
  cases wrapperPrefix <;> rfl

theorem nodup_builtinsWritten (overrides : Overrides) :
    (overrides.builtinsWritten.pairs.map Prod.fst).Nodup := by
  rw [pairs_builtinsWritten]
  cases overrides.delegated <;> cases overrides.rewritten <;> simp

theorem nodup_outputWritten (overrides : Overrides) :
    (overrides.outputWritten.pairs.map Prod.fst).Nodup := by
  rw [pairs_outputWritten]
  cases overrides.wrapperPrefix <;> simp

theorem distinctKeys_sectionsWritten (overrides : Overrides) (outputFirst : Bool) :
    Toml.DistinctKeys (overrides.sectionsWritten outputFirst) := by
  constructor
  · have hsections : ((if outputFirst then
          [overrides.builtinsWritten, overrides.outputWritten].reverse
        else [overrides.builtinsWritten, overrides.outputWritten]).map
          fun written => written.name.name).Nodup := by
      have hne : builtinsKey.name ≠ outputKey.name := by decide
      cases outputFirst <;> simp [builtinsWritten, outputWritten, hne, hne.symm]
    exact (List.filter_sublist.map _).nodup hsections
  · intro written hwritten
    rcases mem_sectionsWritten hwritten with rfl | rfl
    · exact overrides.nodup_builtinsWritten
    · exact overrides.nodup_outputWritten

/-- Whichever section comes first, each is found unless it is left out. -/
theorem find?_sectionsWritten (overrides : Overrides) (outputFirst : Bool) :
    (overrides.sectionsWritten outputFirst).find? (·.name.name = "builtins") =
        (if overrides.builtinsWritten.fields = [] then none
          else some overrides.builtinsWritten) ∧
      (overrides.sectionsWritten outputFirst).find? (·.name.name = "output") =
        if overrides.outputWritten.fields = [] then none else some overrides.outputWritten := by
  have hbuiltins : overrides.builtinsWritten.name.name = "builtins" := rfl
  have houtput : overrides.outputWritten.name.name = "output" := by
    change outputKey.name = _
    decide
  rw [sectionsWritten, List.find?_filter, List.find?_filter]
  by_cases hnames : overrides.builtinsWritten.fields = [] <;>
    by_cases htext : overrides.outputWritten.fields = [] <;> cases outputFirst <;>
      simp [hbuiltins, houtput, hnames, htext]

theorem givesNames_builtinsWritten (overrides : Overrides) :
    GivesNames ((if overrides.builtinsWritten.fields = [] then none
        else some overrides.builtinsWritten).map fun written =>
      .table (Toml.insertAll written.pairs [])) overrides.delegated overrides.rewritten := by
  have hpairs := overrides.pairs_builtinsWritten
  by_cases hempty : overrides.builtinsWritten.fields = []
  · rw [WrittenSection.pairs, hempty] at hpairs
    obtain ⟨hdelegated, hrewritten⟩ : overrides.delegated = none ∧ overrides.rewritten = none := by
      simpa using hpairs.symm
    rw [if_pos hempty, hdelegated, hrewritten]
    exact .absent
  · rw [if_neg hempty]
    refine .table ?_ ?_ ?_
    · intro entry hentry
      rcases Toml.mem_of_mem_insertAll hentry with hpair | hnone
      · rw [hpairs] at hpair
        cases hdelegated : overrides.delegated <;> cases hrewritten : overrides.rewritten <;>
          grind
      · simp at hnone
    · rw [Toml.lookup?_insertAll overrides.nodup_builtinsWritten, hpairs]
      cases overrides.delegated <;> cases overrides.rewritten <;> simp [lookup?]
    · rw [Toml.lookup?_insertAll overrides.nodup_builtinsWritten, hpairs]
      cases overrides.delegated <;> cases overrides.rewritten <;> simp [lookup?]

theorem givesPrefix_outputWritten (overrides : Overrides) :
    GivesPrefix ((if overrides.outputWritten.fields = [] then none
        else some overrides.outputWritten).map fun written =>
      .table (Toml.insertAll written.pairs [])) overrides.wrapperPrefix := by
  have hpairs := overrides.pairs_outputWritten
  by_cases hempty : overrides.outputWritten.fields = []
  · rw [WrittenSection.pairs, hempty] at hpairs
    have hnone : overrides.wrapperPrefix = none := by simpa using hpairs.symm
    rw [if_pos hempty, hnone]
    exact .absent
  · rw [if_neg hempty]
    refine .table ?_ ?_
    · intro entry hentry
      rcases Toml.mem_of_mem_insertAll hentry with hpair | hnone
      · rw [hpairs] at hpair
        cases hwrapper : overrides.wrapperPrefix <;> grind
      · simp at hnone
    · rw [Toml.lookup?_insertAll overrides.nodup_outputWritten, hpairs]
      cases overrides.wrapperPrefix <;> simp [lookup?]

theorem givenBy_writtenTable (overrides : Overrides) (outputFirst : Bool) :
    overrides.GivenBy (Toml.writtenTable (overrides.sectionsWritten outputFirst)) := by
  have hdistinct := overrides.distinctKeys_sectionsWritten outputFirst
  obtain ⟨hbuiltins, houtput⟩ := overrides.find?_sectionsWritten outputFirst
  constructor
  · intro entry hentry
    rcases Toml.mem_of_mem_insertAll hentry with hpair | hnone
    · obtain ⟨written, hwritten, rfl⟩ := List.mem_map.mp hpair
      rcases mem_sectionsWritten hwritten with rfl | rfl
      · exact List.mem_cons_self
      · exact List.mem_cons_of_mem _ List.mem_cons_self
    · simp at hnone
  · rw [Toml.lookup?_writtenTable hdistinct, hbuiltins]
    exact overrides.givesNames_builtinsWritten
  · rw [Toml.lookup?_writtenTable hdistinct, houtput]
    exact overrides.givesPrefix_outputWritten

theorem ofTable_writtenTable (overrides : Overrides) (h : overrides.Valid) (outputFirst : Bool) :
    Toml.document? (overrides.written outputFirst).toList =
        some (Toml.writtenTable (overrides.sectionsWritten outputFirst)) ∧
      ofTable (Toml.writtenTable (overrides.sectionsWritten outputFirst)) = .ok overrides := by
  have hdocument := Toml.document?_writtenText
    (overrides.distinctKeys_sectionsWritten outputFirst) (readable_sectionsWritten h outputFirst)
  refine ⟨by rwa [written, String.toList_ofList], ?_⟩
  exact (ofTable_eq_ok_iff (Toml.ordered_of_document? hdocument)).mpr
    (overrides.givenBy_writtenTable outputFirst)

end Overrides

/-! ## Settings that are written and read back -/

/-- Which settings a file gives, and which of its sections comes first. -/
structure FileLayout where
  delegated : Bool
  rewritten : Bool
  wrapperPrefix : Bool
  outputFirst : Bool

namespace FileLayout

def overrides (layout : FileLayout) (settings : Settings) : Overrides where
  delegated := if layout.delegated then some settings.delegated else none
  rewritten := if layout.rewritten then some settings.rewritten else none
  wrapperPrefix := if layout.wrapperPrefix then some settings.wrapperPrefix else none

def text (layout : FileLayout) (settings : Settings) : String :=
  (layout.overrides settings).written layout.outputFirst

theorem valid_overrides (layout : FileLayout) {settings : Settings}
    (h : settings.check = .ok ()) : (layout.overrides settings).Valid := by
  obtain ⟨hidentifier, hnames⟩ := Settings.check_eq_ok_iff.mp h
  obtain ⟨hrewritten, hdelegated⟩ := List.forall_mem_append.mp hnames
  constructor
  · intro names hgiven
    obtain ⟨-, rfl⟩ : layout.delegated ∧ settings.delegated = names := by
      simpa [overrides] using hgiven
    exact hdelegated
  · intro names hgiven
    obtain ⟨-, rfl⟩ : layout.rewritten ∧ settings.rewritten = names := by
      simpa [overrides] using hgiven
    exact hrewritten
  · intro text hgiven
    obtain ⟨-, rfl⟩ : layout.wrapperPrefix ∧ settings.wrapperPrefix = text := by
      simpa [overrides] using hgiven
    exact hidentifier

theorem overrides_merges (layout : FileLayout) (settings : Settings) :
    (layout.overrides settings).Merges {
      delegated := if layout.delegated then settings.delegated else ({} : Settings).delegated
      rewritten := if layout.rewritten then settings.rewritten else ({} : Settings).rewritten
      wrapperPrefix :=
        if layout.wrapperPrefix then settings.wrapperPrefix else ({} : Settings).wrapperPrefix
      root := "." } := by
  constructor
  · dsimp only [overrides]
    split <;> rfl
  · dsimp only [overrides]
    split <;> rfl
  · dsimp only [overrides]
    split <;> rfl
  · rfl

end FileLayout

theorem Settings.check_default : ({} : Settings).check = .ok () := by decide +kernel

theorem Settings.check_withOverrides {settings : Settings} {overrides : Overrides}
    (hsettings : settings.check = .ok ()) (hvalid : overrides.Valid) :
    (settings.withOverrides overrides).check = .ok () := by
  obtain ⟨hidentifier, hnames⟩ := check_eq_ok_iff.mp hsettings
  obtain ⟨hrewritten, hdelegated⟩ := List.forall_mem_append.mp hnames
  have hgiven {α : Type} (valid : α → Prop) {given : Option α} {value : α}
      (hvalue : valid value) (hall : ∀ text ∈ given, valid text) : valid (given.getD value) := by
    cases given with
    | none => exact hvalue
    | some text => exact hall text rfl
  refine check_eq_ok_iff.mpr ⟨?_, List.forall_mem_append.mpr ⟨?_, ?_⟩⟩
  · exact hgiven (fun text => isIdentifier text = true) hidentifier hvalid.wrapperPrefix
  · exact hgiven (fun names => ∀ name ∈ names, isIdentifier name = true) hrewritten
      hvalid.rewritten
  · exact hgiven (fun names => ∀ name ∈ names, isIdentifier name = true) hdelegated
      hvalid.delegated

/--
A file that is written from valid settings, with whichever of them and in whichever
order of its sections, gives each setting that it writes and the default of each
other one.
-/
theorem Settings.ofFile_written {host : Host} {path : String} {settings : Settings}
    (hcheck : settings.check = .ok ()) (layout : FileLayout)
    (hholds : host.Holds path (layout.text settings)) :
    ofFile host path = .ok {
      delegated := if layout.delegated then settings.delegated else ({} : Settings).delegated
      rewritten := if layout.rewritten then settings.rewritten else ({} : Settings).rewritten
      wrapperPrefix :=
        if layout.wrapperPrefix then settings.wrapperPrefix else ({} : Settings).wrapperPrefix
      root := "." } := by
  have hvalid := layout.valid_overrides hcheck
  obtain ⟨hdocument, htable⟩ :=
    (layout.overrides settings).ofTable_writtenTable hvalid layout.outputFirst
  rw [ofFile_eq_ofTable hholds.readText_eq hdocument, ofTable_eq_ok_iff]
  have hmerges := layout.overrides_merges settings
  exact ⟨_, htable, hmerges,
    Overrides.merges_iff.mp hmerges ▸ check_withOverrides check_default hvalid⟩

/-- Nothing keeps its default, and the section on the output comes first. -/
def fullSettings : Settings where
  delegated := ["cabs", "conj"]
  rewritten := ["csqrt"]
  wrapperPrefix := "w_"

def fullText : String :=
  "[output]\nwrapper_prefix = \"w_\"\n\n" ++
  "[builtins]\ndelegated = [\"cabs\", \"conj\"]\nrewritten = [\"csqrt\"]\n"

theorem ofFile_written_fullSettings :
    fullSettings.check = .ok () ∧
      (Host.holding settingsName fullText).Holds settingsName
        ((FileLayout.mk true true true true).text fullSettings) ∧
      Settings.ofFile (Host.holding settingsName fullText) settingsName = .ok fullSettings := by
  have hcheck : fullSettings.check = .ok () := by decide +kernel
  have htext : (FileLayout.mk true true true true).text fullSettings = fullText := by
    decide +kernel
  have hholds := Host.holds_holding settingsName (by constructor <;> decide)
    (by constructor <;> decide) (by decide) fullText
  rw [← htext] at hholds ⊢
  exact ⟨hcheck, hholds, Settings.ofFile_written hcheck ⟨true, true, true, true⟩ hholds⟩

end BuiltinWrappers
