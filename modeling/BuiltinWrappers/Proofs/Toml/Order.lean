import BuiltinWrappers.Toml.Document
import Mathlib.Data.String.Basic

/-!
# The keys of a document

In every table of a document, however deep it stands, the keys increase, so no
key stands there twice.  A draft keeps the keys of its tables in this order from
edit to edit, and inline tables come from drafts too.
-/

namespace BuiltinWrappers.Toml

/-! ## Entries in order -/

def InOrder {α : Type} (entries : List (String × α)) : Prop :=
  (entries.map Prod.fst).Pairwise (· < ·)

section

variable {α : Type} {key : String} {value : α} {entries : List (String × α)}

theorem mem_of_mem_insertEntry {entry : String × α} (h : entry ∈ insertEntry key value entries) :
    entry = (key, value) ∨ entry ∈ entries := by
  fun_induction insertEntry key value entries with
  | case1 => simpa using h
  | case2 => grind
  | case3 => grind
  | case4 => grind

theorem InOrder.insertEntry (h : InOrder entries) :
    InOrder (Toml.insertEntry key value entries) := by
  unfold InOrder at *
  fun_induction Toml.insertEntry key value entries with
  | case1 => simp
  | case2 => simpa using h
  | case3 other otherValue entries hne hlt =>
      rw [List.map_cons, List.pairwise_cons]
      refine ⟨?_, h⟩
      rw [List.map_cons, List.pairwise_cons] at h
      rw [List.map_cons, List.forall_mem_cons]
      exact ⟨hlt, fun name hname => hlt.trans (h.1 name hname)⟩
  | case4 other otherValue entries hne hlt ih =>
      rw [List.map_cons, List.pairwise_cons] at h ⊢
      refine ⟨?_, ih h.2⟩
      intro name hname
      obtain ⟨entry, hentry, rfl⟩ := List.mem_map.mp hname
      rcases mem_of_mem_insertEntry hentry with rfl | hold
      · exact lt_of_le_of_ne (not_lt.mp hlt) (Ne.symm hne)
      · exact h.1 _ (List.mem_map_of_mem hold)

theorem mem_of_lookup? (h : lookup? key entries = some value) : (key, value) ∈ entries := by
  obtain ⟨⟨found, _⟩, hfind, rfl⟩ := Option.map_eq_some_iff.mp h
  obtain rfl : found = key := by simpa using List.find?_some hfind
  exact List.mem_of_find?_eq_some hfind

theorem InOrder.lookup?_eq_some_iff (h : InOrder entries) :
    lookup? key entries = some value ↔ (key, value) ∈ entries := by
  refine ⟨mem_of_lookup?, ?_⟩
  induction entries with
  | nil => simp
  | cons entry entries ih =>
      obtain ⟨other, otherValue⟩ := entry
      rw [InOrder, List.map_cons, List.pairwise_cons] at h
      rw [List.mem_cons]
      rintro (hsame | hlater)
      · obtain ⟨rfl, rfl⟩ := Prod.mk.inj hsame
        simp [lookup?]
      · have hne : other ≠ key := (h.1 key (List.mem_map_of_mem hlater)).ne
        simpa [lookup?, List.find?_cons, hne] using ih h.2 hlater

/-- Entries whose keys are all known are the known keys in order, as far as they are there. -/
theorem InOrder.eq_filterMap {keys : List String} (hkeys : keys.Pairwise (· < ·))
    (h : InOrder entries) (hknown : ∀ entry ∈ entries, entry.1 ∈ keys) :
    entries = keys.filterMap fun key => (lookup? key entries).map (key, ·) := by
  have hentries : entries.Pairwise fun first second => first.1 < second.1 := List.pairwise_map.mp h
  have hfound : (keys.filterMap fun key => (lookup? key entries).map (key, ·)).Pairwise
      fun first second => first.1 < second.1 := by
    refine hkeys.filterMap _ ?_
    intro first second hlt firstEntry hfirst secondEntry hsecond
    obtain ⟨_, -, rfl⟩ := Option.map_eq_some_iff.mp hfirst
    obtain ⟨_, -, rfl⟩ := Option.map_eq_some_iff.mp hsecond
    exact hlt
  have hdistinct {others : List (String × α)}
      (hothers : others.Pairwise fun first second => first.1 < second.1) : others.Nodup :=
    hothers.imp fun hlt heq => (hlt.ne (congrArg Prod.fst heq))
  refine List.Perm.eq_of_pairwise ?_ hentries hfound ?_
  · intro first second _ _ hlt hgt
    exact absurd hgt hlt.asymm
  · rw [List.perm_ext_iff_of_nodup (hdistinct hentries) (hdistinct hfound)]
    rintro ⟨key, value⟩
    simp only [List.mem_filterMap, Option.map_eq_some_iff, h.lookup?_eq_some_iff, Prod.mk.injEq]
    constructor
    · intro hentry
      exact ⟨key, hknown _ hentry, value, hentry, rfl, rfl⟩
    · rintro ⟨_, -, _, hentry, rfl, rfl⟩
      exact hentry

end

/-! ## Values and drafts in order -/

inductive Value.Ordered : Value → Prop
  | string (text : String) : Ordered (.string text)
  | number (value : Number) : Ordered (.number value)
  | boolean (value : Bool) : Ordered (.boolean value)
  | moment (value : Moment) : Ordered (.moment value)
  | array {items : List Value} (hitems : ∀ item ∈ items, Ordered item) :
      Ordered (.array items)
  | table {entries : List (String × Value)} (horder : InOrder entries)
      (hvalues : ∀ entry ∈ entries, Ordered entry.2) : Ordered (.table entries)

theorem Value.Ordered.inOrder {table : Table} (h : (Value.table table).Ordered) :
    InOrder table := by
  cases h with
  | table horder => exact horder

theorem Value.Ordered.of_lookup? {table : Table} {key : String} {value : Value}
    (h : (Value.table table).Ordered) (hfound : lookup? key table = some value) :
    value.Ordered := by
  cases h with
  | table _ hvalues => exact hvalues _ (mem_of_lookup? hfound)

inductive Draft.Ordered : Draft → Prop
  | closed {value : Value} (hvalue : value.Ordered) : Ordered (.closed value)
  | table {origin : Origin} {entries : Entries} (horder : InOrder entries)
      (hdrafts : ∀ entry ∈ entries, Ordered entry.2) : Ordered (.table origin entries)
  | tables {earlier : List Entries} {latest : Entries}
      (horder : ∀ entries ∈ earlier ++ [latest], InOrder entries)
      (hdrafts : ∀ entries ∈ earlier ++ [latest], ∀ entry ∈ entries, Ordered entry.2) :
      Ordered (.tables earlier latest)

namespace Draft

/-- The entries of one table, and all tables below it, are in order. -/
structure OrderedEntries (entries : Entries) : Prop where
  order : InOrder entries
  drafts : ∀ entry ∈ entries, entry.2.Ordered

theorem orderedEntries_nil : OrderedEntries [] := ⟨.nil, by simp⟩

namespace OrderedEntries

variable {entries inner latest result : Entries} {key : String} {draft : Draft}
  {earlier : List Entries} {origin : Origin}

theorem insertEntry (h : OrderedEntries entries) (hdraft : draft.Ordered) :
    OrderedEntries (Toml.insertEntry key draft entries) := by
  refine ⟨h.order.insertEntry, ?_⟩
  intro entry hentry
  rcases mem_of_mem_insertEntry hentry with rfl | hold
  · exact hdraft
  · exact h.drafts entry hold

theorem ordered_of_lookup? (h : OrderedEntries entries)
    (hfound : lookup? key entries = some draft) : draft.Ordered :=
  h.drafts _ (mem_of_lookup? hfound)

theorem ordered_table (h : OrderedEntries inner) : (Draft.table origin inner).Ordered :=
  .table h.order h.drafts

theorem ordered_tables (hearlier : ∀ entries ∈ earlier, OrderedEntries entries)
    (hlatest : OrderedEntries latest) : (Draft.tables earlier latest).Ordered := by
  have hall : ∀ entries ∈ earlier ++ [latest], OrderedEntries entries := by
    simpa [or_imp, forall_and] using ⟨hearlier, hlatest⟩
  exact .tables (fun entries hentries => (hall entries hentries).order)
    (fun entries hentries => (hall entries hentries).drafts)

end OrderedEntries

theorem orderedEntries_of_table {origin : Origin} {inner : Entries}
    (h : (Draft.table origin inner).Ordered) : OrderedEntries inner := by
  cases h with
  | table horder hdrafts => exact ⟨horder, hdrafts⟩

theorem orderedEntries_of_tables {earlier : List Entries} {latest : Entries}
    (h : (Draft.tables earlier latest).Ordered) :
    (∀ entries ∈ earlier, OrderedEntries entries) ∧ OrderedEntries latest := by
  cases h with
  | tables horder hdrafts =>
      exact ⟨fun entries hentries =>
          ⟨horder _ (List.mem_append_left _ hentries),
            hdrafts _ (List.mem_append_left _ hentries)⟩,
        horder _ (by simp), hdrafts _ (by simp)⟩

/-! ## Closing -/

theorem closeEntries_eq_map (entries : Entries) :
    closeEntries entries = entries.map fun entry => (entry.1, entry.2.close) := by
  induction entries with
  | nil => rfl
  | cons entry entries ih => rw [closeEntries, ih, List.map_cons]

theorem closeTables_eq_map (tables : List Entries) :
    closeTables tables = tables.map fun entries => .table (closeEntries entries) := by
  induction tables with
  | nil => rfl
  | cons entries tables ih => rw [closeTables, ih, List.map_cons]

theorem inOrder_closeEntries {entries : Entries} (h : InOrder entries) :
    InOrder (closeEntries entries) := by
  unfold InOrder
  rwa [closeEntries_eq_map, List.map_map]

private theorem ordered_closeEntries {entries : Entries} (horder : InOrder entries)
    (hvalues : ∀ entry ∈ entries, entry.2.close.Ordered) :
    (Value.table (closeEntries entries)).Ordered := by
  refine .table (inOrder_closeEntries horder) ?_
  rw [closeEntries_eq_map, List.forall_mem_map]
  exact hvalues

theorem Ordered.close {draft : Draft} (h : draft.Ordered) : draft.close.Ordered := by
  induction h with
  | closed hvalue => exact hvalue
  | table horder _ ih => exact ordered_closeEntries horder ih
  | @tables earlier latest horder _ ih =>
      have hclosed : (Draft.tables earlier latest).close =
          .array (closeTables (earlier ++ [latest])) := by
        rw [Draft.close, closeTables_eq_map, closeTables_eq_map, List.map_append]
        rfl
      rw [hclosed, closeTables_eq_map]
      refine .array ?_
      rw [List.forall_mem_map]
      intro entries hentries
      exact ordered_closeEntries (horder entries hentries) (ih entries hentries)

theorem OrderedEntries.close {entries : Entries} (h : OrderedEntries entries) :
    (Value.table (closeEntries entries)).Ordered :=
  ordered_closeEntries h.order fun entry hentry => (h.drafts entry hentry).close

/-! ## Editing -/

/-- An edit of one table keeps the keys of all tables in order. -/
def KeepsOrder (edit : Origin → Entries → Option Entries) : Prop :=
  ∀ origin entries result, OrderedEntries entries → edit origin entries = some result →
    OrderedEntries result

theorem KeepsOrder.change {edit : Origin → Entries → Option Entries} (hedit : KeepsOrder edit)
    (dotted : Bool) (path : List String) : KeepsOrder (change dotted edit path) := by
  induction path with
  | nil => exact hedit
  | cons key path ih =>
      intro origin entries result hentries hresult
      rw [Draft.change] at hresult
      -- What stands under the key: nothing, a value, a table or an array of tables.
      split at hresult
      next =>
        obtain ⟨inner, hinner, hset⟩ := Option.bind_eq_some_iff.mp hresult
        obtain rfl := Option.some.inj hset
        exact hentries.insertEntry (ih _ _ _ orderedEntries_nil hinner).ordered_table
      next => simp at hresult
      next found inner hfound =>
        split at hresult
        · simp at hresult
        · obtain ⟨changed, hchanged, hset⟩ := Option.bind_eq_some_iff.mp hresult
          obtain rfl := Option.some.inj hset
          have hinner := orderedEntries_of_table (hentries.ordered_of_lookup? hfound)
          exact hentries.insertEntry (ih _ _ _ hinner hchanged).ordered_table
      next earlier latest hfound =>
        obtain ⟨changed, hchanged, hset⟩ := Option.bind_eq_some_iff.mp hresult
        obtain rfl := Option.some.inj hset
        obtain ⟨hearlier, hlatest⟩ :=
          orderedEntries_of_tables (hentries.ordered_of_lookup? hfound)
        exact hentries.insertEntry
          (OrderedEntries.ordered_tables hearlier (ih _ _ _ hlatest hchanged))

theorem OrderedEntries.addNew {key : String} {draft : Draft} {entries result : Entries}
    (h : OrderedEntries entries) (hdraft : draft.Ordered)
    (hresult : addNew key draft entries = some result) : OrderedEntries result := by
  unfold Draft.addNew at hresult
  split at hresult
  · obtain rfl := Option.some.inj hresult
    exact h.insertEntry hdraft
  · simp at hresult

theorem keepsOrder_assign (path : List String) (key : String) {value : Value}
    (hvalue : value.Ordered) : KeepsOrder (assign path key value) := by
  apply KeepsOrder.change
  intro origin entries result hentries hresult
  beta_reduce at hresult
  split at hresult
  · simp at hresult
  · exact hentries.addNew (.closed hvalue) hresult

theorem keepsOrder_defineTable (key : String) : KeepsOrder (defineTable key) := by
  intro origin entries result hentries hresult
  unfold defineTable at hresult
  split at hresult
  · obtain rfl := Option.some.inj hresult
    exact hentries.insertEntry orderedEntries_nil.ordered_table
  next inner hfound =>
    obtain rfl := Option.some.inj hresult
    have hinner := orderedEntries_of_table (hentries.ordered_of_lookup? hfound)
    exact hentries.insertEntry hinner.ordered_table
  · simp at hresult

theorem keepsOrder_appendTable (key : String) : KeepsOrder (appendTable key) := by
  intro origin entries result hentries hresult
  unfold appendTable at hresult
  split at hresult
  · obtain rfl := Option.some.inj hresult
    exact hentries.insertEntry (OrderedEntries.ordered_tables (by simp) orderedEntries_nil)
  next earlier latest hfound =>
    obtain rfl := Option.some.inj hresult
    obtain ⟨hearlier, hlatest⟩ := orderedEntries_of_tables (hentries.ordered_of_lookup? hfound)
    refine hentries.insertEntry (OrderedEntries.ordered_tables ?_ orderedEntries_nil)
    rw [List.forall_mem_append]
    exact ⟨hearlier, by simpa using hlatest⟩
  · simp at hresult

theorem foldlM_keeps {α β : Type} {step : β → α → Option β} {items : List α} (holds : β → Prop)
    (hstep : ∀ item ∈ items, ∀ state next, holds state → step state item = some next →
      holds next)
    {start result : β} (hstart : holds start) (h : items.foldlM step start = some result) :
    holds result := by
  induction items generalizing start with
  | nil =>
      obtain rfl := Option.some.inj h
      exact hstart
  | cons item items ih =>
      rw [List.foldlM_cons] at h
      obtain ⟨next, hnext, hrest⟩ := Option.bind_eq_some_iff.mp h
      rw [List.forall_mem_cons] at hstep
      exact ih hstep.2 (hstep.1 start next hstart hnext) hrest

theorem ordered_of_inlineTable? {assignments : List ((List String × String) × Value)}
    {value : Value} (hvalues : ∀ assignment ∈ assignments, assignment.2.Ordered)
    (h : inlineTable? assignments = some value) : value.Ordered := by
  obtain ⟨entries, hentries, rfl⟩ := Option.map_eq_some_iff.mp h
  refine OrderedEntries.close (foldlM_keeps OrderedEntries ?_ orderedEntries_nil hentries)
  intro assignment hassignment entries next hentries hnext
  exact keepsOrder_assign _ _ (hvalues assignment hassignment) _ _ _ hentries hnext

end Draft

/-! ## Reading -/

theorem exists_of_mem_items? {α : Type} {item? : List Char → Option (α × List Char)}
    {closing : Char} {text rest : List Char} {items : List α}
    (h : items? item? closing text = some (items, rest)) :
    ∀ item ∈ items, ∃ front back, item? front = some (item, back) := by
  fun_induction items? item? closing text generalizing items rest with
  | case1 text ih =>
      obtain ⟨start, -, h⟩ := Option.bind_eq_some_iff.mp h
      split at h
      · simp at h
      split at h
      · obtain ⟨rfl, -⟩ := Prod.mk.inj (Option.some.inj h)
        simp
      obtain ⟨⟨item, after⟩, hitem, h⟩ := Option.bind_eq_some_iff.mp h
      obtain ⟨separated, -, h⟩ := Option.bind_eq_some_iff.mp h
      split at h
      · simp at h
      split at h
      · obtain ⟨rfl, -⟩ := Prod.mk.inj (Option.some.inj h)
        simpa using ⟨_, _, hitem⟩
      split at h
      next hcomma =>
        obtain ⟨⟨others, last⟩, hothers, h⟩ := Option.bind_eq_some_iff.mp h
        obtain ⟨rfl, -⟩ := Prod.mk.inj (Option.some.inj h)
        rw [List.forall_mem_cons]
        exact ⟨⟨_, _, hitem⟩, ih _ _ hcomma hothers⟩
      · simp at h

theorem exists_of_keyValue? {gap? : List Char → Option (List Char)}
    {value? : List Char → Option (Value × List Char)} {text rest : List Char} {key : DottedKey}
    {value : Value} (h : keyValue? gap? value? text = some ((key, value), rest)) :
    ∃ front back, value? front = some (value, back) := by
  simp only [keyValue?, Option.bind_eq_bind, Option.bind_eq_some_iff, Option.pure_def,
    Option.some.injEq, Prod.mk.injEq, Prod.exists] at h
  grind

theorem ordered_of_scalar? {run : List Char} {value : Value} (h : scalar? run = some value) :
    value.Ordered := by
  unfold scalar? at h
  split at h
  · obtain rfl := Option.some.inj h
    exact .boolean true
  split at h
  · obtain rfl := Option.some.inj h
    exact .boolean false
  rw [Option.orElse_eq_orElse, Option.orElse_eq_or, Option.or_eq_some_iff] at h
  rcases h with hnumber | ⟨-, hmoment⟩
  · obtain ⟨number, -, rfl⟩ := Option.map_eq_some_iff.mp hnumber
    exact .number number
  · obtain ⟨moment, -, rfl⟩ := Option.map_eq_some_iff.mp hmoment
    exact .moment moment

theorem ordered_of_plainValue? {text rest : List Char} {value : Value}
    (h : plainValue? text = some (value, rest)) : value.Ordered := by
  unfold plainValue? at h
  split at h
  · obtain ⟨_, -, heq⟩ := Option.map_eq_some_iff.mp h
    obtain ⟨rfl, -⟩ := Prod.mk.inj heq
    exact .string _
  · obtain ⟨scalar, hscalar, heq⟩ := Option.map_eq_some_iff.mp h
    obtain ⟨rfl, -⟩ := Prod.mk.inj heq
    exact ordered_of_scalar? hscalar

theorem ordered_of_value? {depth : Nat} {text rest : List Char} {value : Value}
    (h : value? depth text = some (value, rest)) : value.Ordered := by
  induction depth generalizing text rest value with
  | zero =>
      rw [value?] at h
      · exact ordered_of_plainValue? h
      · simp
      · simp
  | succ depth ih =>
      unfold value? at h
      split at h
      next depth rest hdepth =>
        obtain rfl := Nat.succ.inj hdepth
        obtain ⟨⟨items, after⟩, hitems, heq⟩ := Option.bind_eq_some_iff.mp h
        obtain ⟨rfl, -⟩ := Prod.mk.inj (Option.some.inj heq)
        refine .array ?_
        intro item hitem
        obtain ⟨front, back, hread⟩ := exists_of_mem_items? hitems item hitem
        exact ih hread
      next depth rest hdepth =>
        obtain rfl := Nat.succ.inj hdepth
        obtain ⟨⟨assignments, after⟩, hassignments, h⟩ := Option.bind_eq_some_iff.mp h
        obtain ⟨table, htable, heq⟩ := Option.bind_eq_some_iff.mp h
        obtain ⟨rfl, -⟩ := Prod.mk.inj (Option.some.inj heq)
        refine Draft.ordered_of_inlineTable? ?_ htable
        rw [List.forall_mem_map]
        intro assignment hassignment
        obtain ⟨front, back, hread⟩ := exists_of_mem_items? hassignments assignment hassignment
        obtain ⟨front, back, hread⟩ := exists_of_keyValue? hread
        exact ih hread
      next => exact ordered_of_plainValue? h

def Statement.Ordered : Statement → Prop
  | .assignment _ value => value.Ordered
  | .table _ | .arrayTable _ => True

theorem ordered_of_statement? {text rest : List Char} {statement : Statement}
    (h : statement? text = some (statement, rest)) : statement.Ordered := by
  unfold statement? at h
  split at h
  · obtain ⟨⟨name, after⟩, -, h⟩ := Option.bind_eq_some_iff.mp h
    obtain ⟨bracket, -, h⟩ := Option.bind_eq_some_iff.mp h
    obtain ⟨last, -, heq⟩ := Option.bind_eq_some_iff.mp h
    obtain ⟨rfl, -⟩ := Prod.mk.inj (Option.some.inj heq)
    trivial
  · obtain ⟨⟨name, after⟩, -, h⟩ := Option.bind_eq_some_iff.mp h
    obtain ⟨bracket, -, h⟩ := Option.bind_eq_some_iff.mp h
    obtain ⟨last, -, heq⟩ := Option.bind_eq_some_iff.mp h
    obtain ⟨rfl, -⟩ := Prod.mk.inj (Option.some.inj heq)
    trivial
  · obtain ⟨⟨⟨key, value⟩, after⟩, hkeyValue, h⟩ := Option.bind_eq_some_iff.mp h
    obtain ⟨last, -, heq⟩ := Option.bind_eq_some_iff.mp h
    obtain ⟨rfl, -⟩ := Prod.mk.inj (Option.some.inj heq)
    obtain ⟨front, back, hread⟩ := exists_of_keyValue? hkeyValue
    exact ordered_of_value? hread

theorem ordered_of_statements? {text : List Char} {statements : List Statement}
    (h : statements? text = some statements) : ∀ statement ∈ statements, statement.Ordered := by
  fun_induction statements? text generalizing statements with
  | case1 text ih =>
      obtain ⟨start, -, h⟩ := Option.bind_eq_some_iff.mp h
      split at h
      · obtain rfl := Option.some.inj h
        simp
      obtain ⟨⟨statement, after⟩, hstatement, h⟩ := Option.bind_eq_some_iff.mp h
      dsimp only at h
      split at h
      next hshorter =>
        obtain ⟨others, hothers, heq⟩ := Option.bind_eq_some_iff.mp h
        obtain rfl := Option.some.inj heq
        rw [List.forall_mem_cons]
        exact ⟨ordered_of_statement? hstatement, ih _ hshorter hothers⟩
      · simp at h

/-! ## Documents -/

theorem OpenDocument.keepsOrder_apply {document next : OpenDocument} {statement : Statement}
    (hstatement : statement.Ordered) (hentries : Draft.OrderedEntries document.entries)
    (h : document.apply statement = some next) : Draft.OrderedEntries next.entries := by
  cases statement with
  | table name =>
      obtain ⟨entries, hedit, heq⟩ := Option.bind_eq_some_iff.mp h
      obtain rfl := Option.some.inj heq
      exact (Draft.keepsOrder_defineTable name.key).change _ _ _ _ _ hentries hedit
  | arrayTable name =>
      obtain ⟨entries, hedit, heq⟩ := Option.bind_eq_some_iff.mp h
      obtain rfl := Option.some.inj heq
      exact (Draft.keepsOrder_appendTable name.key).change _ _ _ _ _ hentries hedit
  | assignment key value =>
      obtain ⟨entries, hedit, heq⟩ := Option.bind_eq_some_iff.mp h
      obtain rfl := Option.some.inj heq
      exact (Draft.keepsOrder_assign key.path key.key hstatement).change _ _ _ _ _ hentries hedit

theorem ordered_of_document? {text : List Char} {table : Table}
    (h : document? text = some table) : (Value.table table).Ordered := by
  obtain ⟨statements, hstatements, hdocument⟩ := Option.bind_eq_some_iff.mp h
  obtain ⟨document, hfold, rfl⟩ := Option.map_eq_some_iff.mp hdocument
  refine Draft.OrderedEntries.close ?_
  refine Draft.foldlM_keeps (fun document => Draft.OrderedEntries document.entries) ?_
    Draft.orderedEntries_nil hfold
  intro statement hstatement document next hentries hnext
  exact OpenDocument.keepsOrder_apply (ordered_of_statements? hstatements statement hstatement)
    hentries hnext

end BuiltinWrappers.Toml
