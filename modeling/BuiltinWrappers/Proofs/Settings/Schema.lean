import BuiltinWrappers.Proofs.Host.Built
import BuiltinWrappers.Proofs.Toml.Order
import BuiltinWrappers.Settings.File
import Mathlib

/-!
# Which documents give settings

A document fits the schema if its sections are known, and each section is a table
of known fields or an array that starts with the fields in their order.  What it
gives goes in place of the defaults, field by field.  A document that does not fit
is a fault of the document, and one that fits but gives names that are none is a
fault of the settings.
-/

namespace BuiltinWrappers

open Toml (InOrder Value lookup?)

namespace Overrides

/-! ## The schema -/

def namesValue (names : List String) : Value := .array (names.map .string)

/-- What a section gives of both lists of names, if it is there and fits. -/
inductive GivesNames : Option Value → Option (List String) → Option (List String) → Prop
  | absent : GivesNames none none none
  | table {entries : Toml.Table} {delegated rewritten : Option (List String)}
      (hknown : ∀ entry ∈ entries, entry.1 ∈ ["delegated", "rewritten"])
      (hdelegated : lookup? "delegated" entries = delegated.map namesValue)
      (hrewritten : lookup? "rewritten" entries = rewritten.map namesValue) :
      GivesNames (some (.table entries)) delegated rewritten
  | array {delegated rewritten : List String} {others : List Value} :
      GivesNames (some (.array (namesValue delegated :: namesValue rewritten :: others)))
        (some delegated) (some rewritten)

/-- What a section gives of the wrapper prefix, if it is there and fits. -/
inductive GivesPrefix : Option Value → Option String → Prop
  | absent : GivesPrefix none none
  | table {entries : Toml.Table} {wrapperPrefix : Option String}
      (hknown : ∀ entry ∈ entries, entry.1 ∈ ["wrapper_prefix"])
      (hwrapper : lookup? "wrapper_prefix" entries = wrapperPrefix.map .string) :
      GivesPrefix (some (.table entries)) wrapperPrefix
  | array {wrapperPrefix : String} {others : List Value} :
      GivesPrefix (some (.array (.string wrapperPrefix :: others))) (some wrapperPrefix)

/-- The table of a document fits the schema and gives these overrides. -/
structure GivenBy (overrides : Overrides) (table : Toml.Table) : Prop where
  known : ∀ entry ∈ table, entry.1 ∈ ["builtins", "output"]
  names : GivesNames (lookup? "builtins" table) overrides.delegated overrides.rewritten
  wrapperPrefix : GivesPrefix (lookup? "output" table) overrides.wrapperPrefix

/-- Each setting is the one given, or else the default, and the root is never given. -/
structure Merges (overrides : Overrides) (settings : Settings) : Prop where
  delegated : settings.delegated = overrides.delegated.getD ({} : Settings).delegated
  rewritten : settings.rewritten = overrides.rewritten.getD ({} : Settings).rewritten
  wrapperPrefix :
    settings.wrapperPrefix = overrides.wrapperPrefix.getD ({} : Settings).wrapperPrefix
  root : settings.root = ({} : Settings).root

theorem merges_iff {overrides : Overrides} {settings : Settings} :
    overrides.Merges settings ↔ settings = ({} : Settings).withOverrides overrides := by
  obtain ⟨delegated, rewritten, wrapperPrefix, root⟩ := settings
  constructor
  · rintro ⟨hdelegated, hrewritten, hwrapper, hroot⟩
    exact Settings.mk.injEq .. ▸ ⟨hdelegated, hrewritten, hwrapper, hroot⟩
  · intro heq
    obtain ⟨hdelegated, hrewritten, hwrapper, hroot⟩ := Settings.mk.inj heq
    exact ⟨hdelegated, hrewritten, hwrapper, hroot⟩

/-! ## Values of fields -/

theorem text_eq_ok_iff {value : Value} {given : String} :
    text value = .ok given ↔ value = .string given := by
  cases value with
  | string => simp [text]
  | number | boolean | moment | array | table => simp [text]

theorem mapM_text_eq_ok_iff {items : List Value} {given : List String} :
    items.mapM text = .ok given ↔ items = given.map .string := by
  induction items generalizing given with
  | nil =>
      rw [List.mapM_nil, pure_eq_ok_iff]
      simp [eq_comm]
  | cons item items ih =>
      rw [List.mapM_cons]
      simp only [bind_eq_ok_iff, pure_eq_ok_iff, text_eq_ok_iff, ih]
      cases given with
      | nil => simp
      | cons first others => simp [and_comm]

theorem names_eq_ok_iff {value : Value} {given : List String} :
    names value = .ok given ↔ value = namesValue given := by
  cases value with
  | array items => simpa [names, namesValue] using mapM_text_eq_ok_iff
  | string | number | boolean | moment | table => simp [names, namesValue]

/-! ## Fields of a table -/

section

variable {step : Overrides → String → Value → Except SchemaFault Overrides} {fields : List String}
  {entries : Toml.Table} {overrides result : Overrides} {field : String}

def readField (step : Overrides → String → Value → Except SchemaFault Overrides)
    (entries : Toml.Table) (overrides : Overrides) (field : String) :
    Except SchemaFault Overrides :=
  match lookup? field entries with
  | none => .ok overrides
  | some value => step overrides field value

theorem foldlM_entries_eq_ok_iff
    (step : Overrides → String → Value → Except SchemaFault Overrides)
    (hfields : fields.Pairwise (· < ·))
    (hstep : ∀ overrides key value next, step overrides key value = .ok next → key ∈ fields)
    (hentries : InOrder entries) :
    entries.foldlM (fun overrides (key, value) => step overrides key value) overrides =
        .ok result ↔
      (∀ entry ∈ entries, entry.1 ∈ fields) ∧
        fields.foldlM (readField step entries) overrides = .ok result := by
  have hread (hknown : ∀ entry ∈ entries, entry.1 ∈ fields) :
      entries.foldlM (fun overrides (key, value) => step overrides key value) overrides =
        fields.foldlM (readField step entries) overrides := by
    conv_lhs => rw [hentries.eq_filterMap hfields hknown, List.foldlM_filterMap]
    congr 1
    funext overrides field
    unfold readField
    cases lookup? field entries <;> rfl
  constructor
  · intro h
    have hknown : ∀ entry ∈ entries, entry.1 ∈ fields := by
      intro entry hentry
      obtain ⟨overrides, next, hnext⟩ := exists_of_foldlM_eq_ok h entry hentry
      exact hstep overrides entry.1 entry.2 next hnext
    exact ⟨hknown, hread hknown ▸ h⟩
  · rintro ⟨hknown, h⟩
    rwa [hread hknown]

theorem readField_eq_ok_iff {α : Type} {image : α → Value} (set : Option α → Overrides)
    (habsent : set none = overrides)
    (hstep : ∀ value, step overrides field value = .ok result ↔
      ∃ given, value = image given ∧ set (some given) = result) :
    readField step entries overrides field = .ok result ↔
      ∃ given, lookup? field entries = given.map image ∧ set given = result := by
  unfold readField
  cases lookup? field entries with
  | none =>
      constructor
      · intro h
        exact ⟨none, rfl, habsent.trans (Except.ok.inj h)⟩
      · rintro ⟨given, hgiven, rfl⟩
        obtain rfl := Option.map_eq_none_iff.mp hgiven.symm
        exact congrArg Except.ok habsent.symm
  | some value =>
      rw [hstep]
      constructor
      · rintro ⟨given, rfl, hset⟩
        exact ⟨some given, rfl, hset⟩
      · rintro ⟨given, hgiven, hset⟩
        obtain ⟨name, rfl, hvalue⟩ := Option.map_eq_some_iff.mp hgiven.symm
        exact ⟨name, hvalue.symm, hset⟩

end

/-! ## Sections -/

variable {overrides result : Overrides} {value : Value}

theorem mem_of_builtinsField_eq_ok {key : String}
    (h : overrides.builtinsField key value = .ok result) : key ∈ builtinsFields := by
  unfold builtinsField at h
  split at h
  · simp [builtinsFields, *]
  split at h
  · simp [builtinsFields, *]
  · simp at h

theorem mem_of_outputField_eq_ok {key : String}
    (h : overrides.outputField key value = .ok result) : key ∈ outputFields := by
  unfold outputField at h
  split at h
  · simp [outputFields, *]
  · simp at h

theorem mem_of_sectionField_eq_ok {key : String}
    (h : overrides.sectionField key value = .ok result) : key ∈ sections := by
  unfold sectionField at h
  split at h
  · simp [sections, *]
  split at h
  · simp [sections, *]
  · simp at h

theorem readDelegated_eq_ok_iff {entries : Toml.Table} :
    readField builtinsField entries overrides "delegated" = .ok result ↔
      ∃ given : Option (List String), lookup? "delegated" entries = given.map namesValue ∧
        { overrides with delegated := given.or overrides.delegated } = result := by
  refine readField_eq_ok_iff
    (fun given => { overrides with delegated := given.or overrides.delegated }) rfl ?_
  intro value
  rw [builtinsField, if_pos rfl]
  simp only [bind_eq_ok_iff, pure_eq_ok_iff, names_eq_ok_iff, Option.some_or]

theorem readRewritten_eq_ok_iff {entries : Toml.Table} :
    readField builtinsField entries overrides "rewritten" = .ok result ↔
      ∃ given : Option (List String), lookup? "rewritten" entries = given.map namesValue ∧
        { overrides with rewritten := given.or overrides.rewritten } = result := by
  refine readField_eq_ok_iff
    (fun given => { overrides with rewritten := given.or overrides.rewritten }) rfl ?_
  intro value
  rw [builtinsField, if_neg (by decide), if_pos rfl]
  simp only [bind_eq_ok_iff, pure_eq_ok_iff, names_eq_ok_iff, Option.some_or]

theorem readPrefix_eq_ok_iff {entries : Toml.Table} :
    readField outputField entries overrides "wrapper_prefix" = .ok result ↔
      ∃ given : Option String, lookup? "wrapper_prefix" entries = given.map .string ∧
        { overrides with wrapperPrefix := given.or overrides.wrapperPrefix } = result := by
  refine readField_eq_ok_iff
    (fun given => { overrides with wrapperPrefix := given.or overrides.wrapperPrefix }) rfl ?_
  intro value
  rw [outputField, if_pos rfl]
  simp only [bind_eq_ok_iff, pure_eq_ok_iff, text_eq_ok_iff, Option.some_or]

theorem builtinsTable_eq_ok_iff {entries : Toml.Table} (hentries : InOrder entries) :
    ({} : Overrides).builtinsSection (.table entries) = .ok result ↔
      GivesNames (some (.table entries)) result.delegated result.rewritten ∧
        result.wrapperPrefix = none := by
  obtain ⟨delegated, rewritten, wrapperPrefix⟩ := result
  rw [builtinsSection, foldlM_entries_eq_ok_iff builtinsField (by decide)
    (fun _ _ _ _ => mem_of_builtinsField_eq_ok) hentries]
  simp only [builtinsFields, List.foldlM_cons, List.foldlM_nil, bind_eq_ok_iff, pure_eq_ok_iff,
    readDelegated_eq_ok_iff, readRewritten_eq_ok_iff, Option.or_none]
  constructor
  · rintro ⟨hknown, _, ⟨delegated, hdelegated, rfl⟩, _, ⟨rewritten, hrewritten, rfl⟩, heq⟩
    obtain ⟨rfl, rfl, rfl⟩ := Overrides.mk.inj heq
    exact ⟨.table hknown hdelegated (by simpa using hrewritten), rfl⟩
  · rintro ⟨hgives, rfl⟩
    cases hgives with
    | table hknown hdelegated hrewritten =>
        exact ⟨hknown, _, ⟨_, hdelegated, rfl⟩, _, ⟨_, hrewritten, rfl⟩, by simp⟩

theorem builtinsArray_eq_ok_iff {items : List Value} :
    ({} : Overrides).builtinsSection (.array items) = .ok result ↔
      GivesNames (some (.array items)) result.delegated result.rewritten ∧
        result.wrapperPrefix = none := by
  obtain ⟨delegated, rewritten, wrapperPrefix⟩ := result
  rcases items with _ | ⟨first, _ | ⟨second, others⟩⟩
  · exact iff_of_false (by simp [builtinsSection]) fun h => nomatch h.1
  · exact iff_of_false (by simp [builtinsSection, bind_eq_ok_iff]) fun h => nomatch h.1
  · simp only [builtinsSection, bind_eq_ok_iff, pure_eq_ok_iff, names_eq_ok_iff]
    constructor
    · rintro ⟨delegated, rfl, rewritten, rfl, heq⟩
      obtain ⟨rfl, rfl, rfl⟩ := Overrides.mk.inj heq
      exact ⟨.array, rfl⟩
    · rintro ⟨hgives, rfl⟩
      cases hgives with
      | array => exact ⟨_, rfl, _, rfl, rfl⟩

theorem builtinsSection_eq_ok_iff (hordered : value.Ordered) :
    ({} : Overrides).builtinsSection value = .ok result ↔
      GivesNames (some value) result.delegated result.rewritten ∧
        result.wrapperPrefix = none := by
  cases hordered with
  | string | number | boolean | moment =>
      exact iff_of_false (by simp [builtinsSection]) fun h => nomatch h.1
  | array => exact builtinsArray_eq_ok_iff
  | table hentries => exact builtinsTable_eq_ok_iff hentries

theorem outputTable_eq_ok_iff {entries : Toml.Table} (hentries : InOrder entries)
    (hwrapper : overrides.wrapperPrefix = none) :
    overrides.outputSection (.table entries) = .ok result ↔
      GivesPrefix (some (.table entries)) result.wrapperPrefix ∧
        result.delegated = overrides.delegated ∧ result.rewritten = overrides.rewritten := by
  obtain ⟨delegated, rewritten, wrapperPrefix⟩ := result
  rw [outputSection, foldlM_entries_eq_ok_iff outputField (by decide)
    (fun _ _ _ _ => mem_of_outputField_eq_ok) hentries]
  simp only [outputFields, List.foldlM_cons, List.foldlM_nil, bind_eq_ok_iff, pure_eq_ok_iff,
    readPrefix_eq_ok_iff, hwrapper, Option.or_none]
  constructor
  · rintro ⟨hknown, _, ⟨given, hgiven, rfl⟩, heq⟩
    obtain ⟨rfl, rfl, rfl⟩ := Overrides.mk.inj heq
    exact ⟨.table hknown hgiven, rfl, rfl⟩
  · rintro ⟨hgives, rfl, rfl⟩
    cases hgives with
    | table hknown hgiven => exact ⟨hknown, _, ⟨_, hgiven, rfl⟩, rfl⟩

theorem outputArray_eq_ok_iff {items : List Value} :
    overrides.outputSection (.array items) = .ok result ↔
      GivesPrefix (some (.array items)) result.wrapperPrefix ∧
        result.delegated = overrides.delegated ∧ result.rewritten = overrides.rewritten := by
  obtain ⟨delegated, rewritten, wrapperPrefix⟩ := result
  rcases items with _ | ⟨first, others⟩
  · exact iff_of_false (by simp [outputSection]) fun h => nomatch h.1
  · simp only [outputSection, bind_eq_ok_iff, pure_eq_ok_iff, text_eq_ok_iff]
    constructor
    · rintro ⟨given, rfl, heq⟩
      obtain ⟨rfl, rfl, rfl⟩ := Overrides.mk.inj heq
      exact ⟨.array, rfl, rfl⟩
    · rintro ⟨hgives, rfl, rfl⟩
      cases hgives with
      | array => exact ⟨_, rfl, rfl⟩

theorem outputSection_eq_ok_iff (hordered : value.Ordered)
    (hwrapper : overrides.wrapperPrefix = none) :
    overrides.outputSection value = .ok result ↔
      GivesPrefix (some value) result.wrapperPrefix ∧
        result.delegated = overrides.delegated ∧ result.rewritten = overrides.rewritten := by
  cases hordered with
  | string | number | boolean | moment =>
      exact iff_of_false (by simp [outputSection]) fun h => nomatch h.1
  | array => exact outputArray_eq_ok_iff
  | table hentries => exact outputTable_eq_ok_iff hentries hwrapper

/-! ## Whole documents -/

theorem readBuiltins_eq_ok_iff {table : Toml.Table} (hordered : (Value.table table).Ordered) :
    readField sectionField table {} "builtins" = .ok result ↔
      GivesNames (lookup? "builtins" table) result.delegated result.rewritten ∧
        result.wrapperPrefix = none := by
  unfold readField
  cases hfound : lookup? "builtins" table with
  | none =>
      obtain ⟨delegated, rewritten, wrapperPrefix⟩ := result
      constructor
      · intro heq
        obtain ⟨rfl, rfl, rfl⟩ := Overrides.mk.inj (Except.ok.inj heq)
        exact ⟨.absent, rfl⟩
      · rintro ⟨hgives, rfl⟩
        cases hgives
        rfl
  | some value =>
      exact builtinsSection_eq_ok_iff (hordered.of_lookup? hfound)

theorem readOutput_eq_ok_iff {table : Toml.Table} (hordered : (Value.table table).Ordered)
    (hwrapper : overrides.wrapperPrefix = none) :
    readField sectionField table overrides "output" = .ok result ↔
      GivesPrefix (lookup? "output" table) result.wrapperPrefix ∧
        result.delegated = overrides.delegated ∧ result.rewritten = overrides.rewritten := by
  unfold readField
  cases hfound : lookup? "output" table with
  | none =>
      obtain ⟨delegated, rewritten, wrapperPrefix⟩ := result
      constructor
      · intro heq
        obtain rfl := Except.ok.inj heq
        exact ⟨hwrapper ▸ .absent, rfl, rfl⟩
      · rintro ⟨hgives, rfl, rfl⟩
        cases hgives
        rw [← hwrapper]
  | some value =>
      exact outputSection_eq_ok_iff (hordered.of_lookup? hfound) hwrapper

theorem ofTable_eq_ok_iff {table : Toml.Table} (hordered : (Value.table table).Ordered) :
    ofTable table = .ok overrides ↔ overrides.GivenBy table := by
  rw [ofTable, foldlM_entries_eq_ok_iff sectionField (by decide)
    (fun _ _ _ _ => mem_of_sectionField_eq_ok) hordered.inOrder]
  simp only [sections, List.foldlM_cons, List.foldlM_nil, bind_eq_ok_iff, pure_eq_ok_iff,
    readBuiltins_eq_ok_iff hordered]
  constructor
  · rintro ⟨hknown, builtins, ⟨hnames, hwrapper⟩, _, houtput, rfl⟩
    obtain ⟨hgiven, hdelegated, hrewritten⟩ :=
      (readOutput_eq_ok_iff hordered hwrapper).mp houtput
    exact ⟨hknown, hdelegated ▸ hrewritten ▸ hnames, hgiven⟩
  · rintro ⟨hknown, hnames, hgiven⟩
    refine ⟨hknown, { overrides with wrapperPrefix := none }, ⟨hnames, rfl⟩, overrides, ?_, rfl⟩
    exact (readOutput_eq_ok_iff hordered rfl).mpr ⟨hgiven, rfl, rfl⟩

end Overrides

namespace Settings

variable {host : Host} {path text : String} {table : Toml.Table}

theorem ofTable_eq_ok_iff {settings : Settings} :
    ofTable table = .ok settings ↔
      ∃ overrides, Overrides.ofTable table = .ok overrides ∧
        overrides.Merges settings ∧ settings.check = .ok () := by
  unfold ofTable
  cases Overrides.ofTable table with
  | error cause => simp
  | ok overrides =>
      simp only [Except.ok.injEq, exists_eq_left', Overrides.merges_iff]
      cases hcheck : (({} : Settings).withOverrides overrides).check with
      | error cause => grind
      | ok => grind

theorem ofTable_eq_schema_iff :
    (∃ cause, ofTable table = .error (.document (.schema cause))) ↔
      ¬∃ overrides, Overrides.ofTable table = .ok overrides := by
  unfold ofTable
  cases Overrides.ofTable table with
  | error cause => simp
  | ok overrides => cases hcheck : (({} : Settings).withOverrides overrides).check <;> simp [hcheck]

theorem ofTable_eq_settings_iff {cause : SettingsFault} :
    ofTable table = .error (.settings cause) ↔
      ∃ overrides settings, Overrides.ofTable table = .ok overrides ∧
        overrides.Merges settings ∧ settings.check = .error cause := by
  unfold ofTable
  cases Overrides.ofTable table with
  | error cause => simp
  | ok overrides =>
      simp only [Except.ok.injEq, exists_and_left, exists_eq_left', Overrides.merges_iff]
      cases hcheck : (({} : Settings).withOverrides overrides).check <;> simp [hcheck]

theorem ofFile_eq_ofTable (hread : host.readText path = .ok text)
    (hdocument : Toml.document? text.toList = some table) :
    ofFile host path = ofTable table := by
  rw [ofFile, hread]
  dsimp only
  rw [ofText, hdocument]

/--
A file that holds a document gives settings exactly if its table fits the schema
and what it gives, merged into the defaults, passes the check.  Only a table that
does not fit is a fault of the document, and only a failed check one of the settings.
-/
theorem ofFile_accepts_schema (hread : host.readText path = .ok text)
    (hdocument : Toml.document? text.toList = some table) :
    (∀ settings, ofFile host path = .ok settings ↔
      ∃ overrides : Overrides,
        overrides.GivenBy table ∧ overrides.Merges settings ∧ settings.check = .ok ()) ∧
    ((∃ cause, ofFile host path = .error (.document (.schema cause))) ↔
      ¬∃ overrides : Overrides, overrides.GivenBy table) ∧
    (∀ cause, ofFile host path = .error (.settings cause) ↔
      ∃ (overrides : Overrides) (settings : Settings),
        overrides.GivenBy table ∧ overrides.Merges settings ∧ settings.check = .error cause) := by
  have hschema (overrides : Overrides) :
      Overrides.ofTable table = .ok overrides ↔ overrides.GivenBy table :=
    Overrides.ofTable_eq_ok_iff (Toml.ordered_of_document? hdocument)
  simp only [← hschema, ofFile_eq_ofTable hread hdocument]
  exact ⟨fun _ => ofTable_eq_ok_iff, ofTable_eq_schema_iff, fun _ => ofTable_eq_settings_iff⟩

end Settings

/-! ## A file with both kinds of sections -/

def settingsName : String := "settings.toml"

def settingsText : String := "output = [\"w_\", 1]\nbuiltins.delegated = []\n"

def settingsTable : Toml.Table :=
  [("builtins", .table [("delegated", .array [])]),
   ("output", .array [.string "w_", .number (.integer 1)])]

def settingsHost : Host where
  tree := FileTree.empty.set [settingsName] (.file settingsText.toUTF8 0o644)

theorem readText_settingsHost : settingsHost.readText settingsName = .ok settingsText :=
  (Host.holds_holding settingsName (by constructor <;> decide) (by constructor <;> decide)
    (by decide) settingsText).readText_eq

theorem document?_settingsText : Toml.document? settingsText.toList = some settingsTable := by
  cbv

theorem givenBy_settingsTable :
    ({ delegated := some [], wrapperPrefix := some "w_" } : Overrides).GivenBy settingsTable where
  known := by decide
  names := .table (by decide) rfl rfl
  wrapperPrefix := .array

theorem ofFile_accepts_schema_settingsHost :
    settingsHost.readText settingsName = .ok settingsText ∧
      Toml.document? settingsText.toList = some settingsTable ∧
      Settings.ofFile settingsHost settingsName =
        .ok { delegated := [], wrapperPrefix := "w_" } := by
  obtain ⟨haccepts, -, -⟩ :=
    Settings.ofFile_accepts_schema readText_settingsHost document?_settingsText
  refine ⟨readText_settingsHost, document?_settingsText, (haccepts _).mpr ?_⟩
  exact ⟨_, givenBy_settingsTable, ⟨rfl, rfl, rfl, rfl⟩, by decide +kernel⟩

end BuiltinWrappers
