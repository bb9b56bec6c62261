import BuiltinWrappers.Proofs.Catalog.History
import Mathlib.Data.List.Dedup
import Mathlib.Data.List.Perm.Basic

/-!
# A catalog and its history

A catalog comes from nothing or from a text, and takes declarations one by one.
Everything that can be asked of it is told by the list of all declarations it
ever took: the last one of each name is there, once, and no other.
-/

namespace BuiltinWrappers.Catalog

/-! ## Entries -/

theorem mem_toList {catalog : Catalog} {declaration : Declaration} :
    declaration ∈ catalog.toList ↔
      catalog.find? declaration.name = some declaration := by
  simp only [toList, List.mem_map, Prod.exists, exists_eq_right,
    Std.ExtTreeMap.mem_toList_iff_getElem?_eq_some]
  constructor
  · rintro ⟨name, hfound⟩
    rw [catalog.named name declaration hfound]
    exact hfound
  · intro hfound
    exact ⟨declaration.name, hfound⟩

/-- Every entry sits under its own name, so the names in a catalog are its keys. -/
theorem toList_map_name (catalog : Catalog) :
    catalog.toList.map Declaration.name = catalog.entries.keys := by
  rw [toList, List.map_map, ← Std.ExtTreeMap.map_fst_toList_eq_keys]
  apply List.map_congr_left
  rintro ⟨name, declaration⟩ hmem
  exact catalog.named name declaration
    (Std.ExtTreeMap.mem_toList_iff_getElem?_eq_some.mp hmem)

theorem nodup_names (catalog : Catalog) :
    (catalog.toList.map Declaration.name).Nodup := by
  rw [toList_map_name]
  exact Std.ExtTreeMap.nodup_keys

theorem length_toList (catalog : Catalog) : catalog.toList.length = catalog.size := by
  rw [toList, List.length_map, Std.ExtTreeMap.length_toList, size]

theorem mem_names_iff {catalog : Catalog} {name : String} :
    name ∈ catalog.toList.map Declaration.name ↔ (catalog.find? name).isSome := by
  rw [toList_map_name, Std.ExtTreeMap.mem_keys, Std.ExtTreeMap.mem_iff_isSome_getElem?]
  rfl

/-! ## One more declaration -/

theorem size_insert (catalog : Catalog) (declaration : Declaration) :
    (catalog.insert declaration).size =
      catalog.size + if catalog.find? declaration.name = none then 1 else 0 := by
  rw [size, insert, Std.ExtTreeMap.size_insert,
    Std.ExtTreeMap.contains_eq_isSome_getElem?]
  change (if (catalog.find? declaration.name).isSome then _ else _) = _
  cases catalog.find? declaration.name with
  | none => rfl
  | some found => rfl

theorem insert_comm (catalog : Catalog) {first second : Declaration}
    (h : first.name ≠ second.name) :
    (catalog.insert first).insert second = (catalog.insert second).insert first := by
  ext1 name
  simp only [find?_insert]
  by_cases hfirst : first.name = name
  · have hsecond : second.name ≠ name := fun hsecond => h (hfirst.trans hsecond.symm)
    rw [if_neg hsecond, if_pos hfirst, if_pos hfirst]
  · rw [if_neg hfirst, if_neg hfirst]

theorem ofDeclarations_exchange (before after : List Declaration)
    {first second : Declaration} (h : first.name ≠ second.name) :
    ofDeclarations (before ++ first :: second :: after) =
      ofDeclarations (before ++ second :: first :: after) := by
  simp only [ofDeclarations, List.foldl_append, List.foldl_cons]
  rw [insert_comm _ h]

/-! ## The last declaration of each name -/

theorem find?_ofDeclarations_eq_getLast? (declarations : List Declaration) (name : String) :
    (ofDeclarations declarations).find? name =
      (declarations.filter fun declaration => declaration.name = name).getLast? := by
  rw [find?_ofDeclarations, List.getLast?_eq_head?_reverse, ← List.filter_reverse,
    List.head?_filter]

theorem isSome_find?_ofDeclarations {declarations : List Declaration} {name : String} :
    ((ofDeclarations declarations).find? name).isSome ↔
      name ∈ declarations.map Declaration.name := by
  simp [find?_ofDeclarations, List.find?_isSome]

theorem names_perm_dedup (declarations : List Declaration) :
    ((ofDeclarations declarations).toList.map Declaration.name).Perm
      (declarations.map Declaration.name).dedup := by
  rw [List.perm_ext_iff_of_nodup (nodup_names _) (List.nodup_dedup _)]
  intro name
  rw [mem_names_iff, isSome_find?_ofDeclarations, List.mem_dedup]

theorem size_ofDeclarations (declarations : List Declaration) :
    (ofDeclarations declarations).size =
      (declarations.map Declaration.name).dedup.length := by
  rw [← length_toList, ← (names_perm_dedup declarations).length_eq, List.length_map]

/-! ## Every history -/

/-- The catalogs that can come about, each with all declarations it ever took. -/
inductive Reached : List Declaration → Catalog → Prop
  | empty : Reached [] .empty
  | ofText (text : List Char) :
      Reached ((Text.lines text).filterMap Declaration.parse?) (ofText text)
  | replace {history : List Declaration} {catalog : Catalog}
      (h : Reached history catalog) (declaration : Declaration) :
      Reached (history ++ [declaration]) (catalog.replace declaration).2

theorem Reached.eq_ofDeclarations {history : List Declaration} {catalog : Catalog}
    (h : Reached history catalog) : catalog = ofDeclarations history := by
  induction h with
  | empty => rfl
  | ofText text => rfl
  | replace h declaration ih =>
      rw [ofDeclarations_append_singleton, ← ih]
      rfl

/--
A catalog holds the last declaration of each name in its history, under that
name and once.  One more declaration takes the place of the one that a look-up
found, and an exchange of two neighbours of different names changes nothing.
-/
theorem Reached.last_declaration_counts {history : List Declaration} {catalog : Catalog}
    (h : Reached history catalog) :
    (∀ name, catalog.find? name =
      (history.filter fun declaration => declaration.name = name).getLast?) ∧
    (∀ name declaration, catalog.find? name = some declaration →
      declaration.name = name) ∧
    catalog.size = (history.map Declaration.name).dedup.length ∧
    (catalog.toList.map Declaration.name).Perm (history.map Declaration.name).dedup ∧
    (∀ declaration ∈ catalog.toList,
      catalog.find? declaration.name = some declaration) ∧
    (∀ declaration,
      (catalog.replace declaration).1 = catalog.find? declaration.name ∧
      (∀ name, name ≠ declaration.name →
        (catalog.replace declaration).2.find? name = catalog.find? name) ∧
      (catalog.replace declaration).2.size =
        catalog.size + if (catalog.replace declaration).1 = none then 1 else 0) ∧
    ∀ before first second after exchanged,
      history = before ++ first :: second :: after → first.name ≠ second.name →
      Reached (before ++ second :: first :: after) exchanged →
        (∀ name, exchanged.find? name = catalog.find? name) ∧
          exchanged.size = catalog.size := by
  obtain rfl := h.eq_ofDeclarations
  refine ⟨find?_ofDeclarations_eq_getLast? history, fun _ _ => name_of_find?,
    size_ofDeclarations history, names_perm_dedup history, fun _ => mem_toList.mp, ?_, ?_⟩
  · intro declaration
    refine ⟨rfl, ?_, size_insert _ declaration⟩
    intro name hname
    change ((ofDeclarations history).insert declaration).find? name = _
    rw [find?_insert, if_neg hname.symm]
  · rintro before first second after exchanged rfl hnames hexchanged
    rw [hexchanged.eq_ofDeclarations, ofDeclarations_exchange before after hnames]
    exact ⟨fun _ => rfl, rfl⟩

def cabsText : List Char := "BUILTIN(cabs, \"dXd\", \"n\")\n// no declaration\n".toList

def cabsPlain : Declaration := ⟨"cabs", "dXd", "n", .plain⟩

def cabsLibrary : Declaration := ⟨"cabs", "dXd", "fne", .library "complex.h" "ALL_LANGUAGES"⟩

theorem last_declaration_counts_cabs :
    Reached [cabsPlain, cabsLibrary] ((ofText cabsText).replace cabsLibrary).2 ∧
      ((ofText cabsText).replace cabsLibrary).2.find? "cabs" = some cabsLibrary ∧
      ((ofText cabsText).replace cabsLibrary).2.size = 1 := by
  have hlines : (Text.lines cabsText).filterMap Declaration.parse? = [cabsPlain] := by
    decide +kernel
  have hreached := (Reached.ofText cabsText).replace cabsLibrary
  rw [hlines] at hreached
  obtain ⟨hfind, -, hsize, -⟩ := hreached.last_declaration_counts
  refine ⟨hreached, ?_, ?_⟩
  · rw [hfind]
    decide
  · rw [hsize]
    decide

end BuiltinWrappers.Catalog
