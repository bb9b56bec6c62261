import BuiltinWrappers.Proofs.Host.Resolution
import BuiltinWrappers.Proofs.Steps

/-!
# What one write changes

A write puts the whole text under every name of the file that a path leads to,
and changes nothing else.  It leads no path elsewhere, so a path that could be
written before can be written after it.
-/

namespace BuiltinWrappers.Host

/-! ## Paths of a host -/

def LeadsTo (host : Host) (path : String) (location : Location) : Prop :=
  host.tree.resolve host.workingDirectory path = .ok location

/-- The path leads to where a file stands or may be made. -/
def Writable (host : Host) (path : String) : Prop :=
  ∃ location, host.LeadsTo path location ∧ ¬host.tree.isDirectory location

/-- The path names a file with exactly this text in it. -/
def Holds (host : Host) (path text : String) : Prop :=
  host.tree.read host.workingDirectory path = .ok text.toUTF8

def fileSize? (host : Host) (path : String) : Option Nat :=
  match host.tree.read host.workingDirectory path with
  | .error _ => none
  | .ok content => some content.size

theorem Holds.fileSize?_eq {host : Host} {path text : String} (h : host.Holds path text) :
    host.fileSize? path = some text.utf8ByteSize := by
  rw [fileSize?, h]
  rfl

theorem Holds.readText_eq {host : Host} {path text : String} (h : host.Holds path text) :
    host.readText path = .ok text := by
  refine bind_eq_ok_iff.mpr ⟨_, h, ?_⟩
  rw [String.fromUTF8?, String.toUTF8_eq_toByteArray, dif_pos text.isValidUTF8]
  rfl

theorem LeadsTo.unique {host : Host} {path : String} {location other : Location}
    (h : host.LeadsTo path location) (hother : host.LeadsTo path other) : location = other :=
  Except.ok.inj (h.symm.trans hother)

theorem LeadsTo.holds {host : Host} {path text : String} {location : Location} {mode : Nat}
    (h : host.LeadsTo path location)
    (hnode : host.tree.node? location = some (.file text.toUTF8 mode)) :
    host.Holds path text := by
  refine bind_eq_ok_iff.mpr ⟨location, h, ?_⟩
  rw [hnode]

/-! ## The names of a file -/

/-- Whatever has several names is a file. -/
def NamesAreFiles (host : Host) : Prop :=
  ∀ names ∈ host.aliases, ∀ name ∈ names, ∃ content mode,
    host.tree.node? name = some (.file content mode)

theorem mem_namesOf (host : Host) (location : Location) :
    location ∈ host.namesOf location := by
  unfold namesOf
  cases hfound : host.aliases.find? (·.contains location) with
  | none => simp
  | some names => simpa using List.find?_some hfound

theorem namesOf_eq_or_mem (host : Host) (location : Location) :
    host.namesOf location = [location] ∨ host.namesOf location ∈ host.aliases := by
  unfold namesOf
  cases hfound : host.aliases.find? (·.contains location) with
  | none => exact .inl rfl
  | some names => exact .inr (List.mem_of_find?_eq_some hfound)

theorem NamesAreFiles.not_isDirectory {host : Host} (h : host.NamesAreFiles)
    {location name : Location} (hlocation : ¬host.tree.isDirectory location)
    (hname : name ∈ host.namesOf location) : ¬host.tree.isDirectory name := by
  rcases host.namesOf_eq_or_mem location with hone | hmany
  · rw [hone, List.mem_singleton] at hname
    rwa [hname]
  · obtain ⟨content, mode, hnode⟩ := h _ hmany name hname
    simp [FileTree.isDirectory_iff, hnode]

theorem nodes_foldl_set (names : List Location) (node : Node) (tree : FileTree)
    (place : Location) :
    (names.foldl (fun tree name => tree.set name node) tree).nodes[place]? =
      if place ∈ names then some node else tree.nodes[place]? := by
  induction names generalizing tree with
  | nil => simp
  | cons name names ih =>
      rw [List.foldl_cons, ih]
      simp only [FileTree.set, Std.ExtTreeMap.getElem?_insert, Std.LawfulEqCmp.compare_eq_iff_eq,
        List.mem_cons, eq_comm (a := name)]
      by_cases hrest : place ∈ names <;> simp [hrest]

theorem node?_foldl_set {names : List Location} {node : Node} {tree : FileTree}
    {place : Location} (hplace : place ≠ []) :
    (names.foldl (fun tree name => tree.set name node) tree).node? place =
      if place ∈ names then some node else tree.node? place := by
  simp only [FileTree.node?, if_neg hplace, nodes_foldl_set]

theorem nodes_store (host : Host) (location place : Location) (node : Node) :
    (host.store location node).tree.nodes[place]? =
      if place ∈ host.namesOf location then some node else host.tree.nodes[place]? :=
  nodes_foldl_set _ node host.tree place

theorem node?_store {host : Host} {location place : Location} {node : Node}
    (hplace : place ≠ []) :
    (host.store location node).tree.node? place =
      if place ∈ host.namesOf location then some node else host.tree.node? place :=
  node?_foldl_set hplace

/-! ## One write -/

def modeAt (host : Host) (location : Location) : Nat :=
  match host.tree.node? location with
  | some (.file _ mode) => mode
  | _ => host.maskedMode 0o666

theorem replaceContent_eq_ok_iff {host after : Host} {location : Location}
    {content : ByteArray} :
    host.replaceContent location content = .ok after ↔
      ¬host.tree.isDirectory location ∧
        after = host.store location (.file content (host.modeAt location)) := by
  unfold replaceContent modeAt newFile
  rw [FileTree.isDirectory_iff]
  cases host.tree.node? location with
  | none => simp [eq_comm]
  | some node => cases node <;> simp [eq_comm]

theorem write_eq_ok_iff {host after : Host} {path text : String} :
    host.write path text = .ok after ↔
      ∃ location, host.LeadsTo path location ∧ ¬host.tree.isDirectory location ∧
        after = host.store location (.file text.toUTF8 (host.modeAt location)) := by
  simp only [write, writeBytes, bind_eq_ok_iff, replaceContent_eq_ok_iff]
  rfl

theorem exists_write_eq_ok_iff {host : Host} {path text : String} :
    (∃ after, host.write path text = .ok after) ↔ host.Writable path := by
  constructor
  · rintro ⟨after, hwrite⟩
    obtain ⟨location, hleads, hplace, -⟩ := write_eq_ok_iff.mp hwrite
    exact ⟨location, hleads, hplace⟩
  · rintro ⟨location, hleads, hplace⟩
    exact ⟨_, write_eq_ok_iff.mpr ⟨location, hleads, hplace, rfl⟩⟩

theorem ne_nil_of_write {host after : Host} {path text : String} {location : Location}
    (hpath : host.LeadsTo path location) (hwrite : host.write path text = .ok after) :
    location ≠ [] := by
  obtain ⟨found, hfound, hplace, -⟩ := write_eq_ok_iff.mp hwrite
  obtain rfl := hpath.unique hfound
  exact FileTree.ne_nil_of_not_isDirectory hplace

theorem node?_of_write {host after : Host} {path text : String} {location place : Location}
    (hpath : host.LeadsTo path location) (hwrite : host.write path text = .ok after)
    (hplace : place ∈ host.namesOf location) (htop : place ≠ []) :
    after.tree.node? place = some (.file text.toUTF8 (host.modeAt location)) := by
  obtain ⟨found, hfound, -, rfl⟩ := write_eq_ok_iff.mp hwrite
  obtain rfl := hpath.unique hfound
  rw [node?_store htop, if_pos hplace]

/-- The file at a location holds the text under all its names; all else is as before. -/
structure Overwritten (before : Host) (location : Location) (text : String)
    (after : Host) : Prop where
  held : ∀ name ∈ before.namesOf location, ∃ mode,
    after.tree.node? name = some (.file text.toUTF8 mode)
  kept : ∀ place, place ∉ before.namesOf location →
    after.tree.node? place = before.tree.node? place
  rest : after = { before with tree := after.tree }

namespace Overwritten

variable {before after : Host} {location : Location} {text path : String}

theorem of_write (hfiles : before.NamesAreFiles) (hleads : before.LeadsTo path location)
    (h : before.write path text = .ok after) :
    ¬before.tree.isDirectory location ∧ Overwritten before location text after := by
  obtain ⟨found, hfound, hplace, rfl⟩ := write_eq_ok_iff.mp h
  obtain rfl := hleads.unique hfound
  have htop : ∀ name ∈ before.namesOf location, name ≠ [] := fun name hname =>
    FileTree.ne_nil_of_not_isDirectory (hfiles.not_isDirectory hplace hname)
  refine ⟨hplace, ?_, ?_, rfl⟩
  · intro name hname
    exact ⟨_, node?_of_write hleads h hname (htop name hname)⟩
  · intro place hother
    by_cases hplace : place = []
    · subst hplace
      simp [FileTree.node?]
    · rw [node?_store hplace, if_neg hother]

theorem workingDirectory_eq (h : Overwritten before location text after) :
    after.workingDirectory = before.workingDirectory := by
  rw [h.rest]

theorem namesOf_eq (h : Overwritten before location text after) :
    after.namesOf = before.namesOf := by
  rw [h.rest]
  rfl

theorem sameShape (h : Overwritten before location text after)
    (hlinks : before.tree.LinkFree) (hfiles : before.NamesAreFiles)
    (hplace : ¬before.tree.isDirectory location) :
    FileTree.SameShape before.tree after.tree := by
  constructor
  · intro place
    by_cases hname : place ∈ before.namesOf location
    · obtain ⟨mode, hnode⟩ := h.held place hname
      have hafter : ¬after.tree.isDirectory place := by
        simp [FileTree.isDirectory_iff, hnode]
      exact iff_of_false (hfiles.not_isDirectory hplace hname) hafter
    · rw [FileTree.isDirectory_iff, FileTree.isDirectory_iff, h.kept place hname]
  · intro place target
    by_cases hname : place ∈ before.namesOf location
    · obtain ⟨mode, hnode⟩ := h.held place hname
      simp [hnode, hlinks place target]
    · rw [h.kept place hname]

theorem linkFree (h : Overwritten before location text after)
    (hlinks : before.tree.LinkFree) (hfiles : before.NamesAreFiles)
    (hplace : ¬before.tree.isDirectory location) : after.tree.LinkFree :=
  fun place target hlink =>
    hlinks place target (((h.sameShape hlinks hfiles hplace).link place target).mpr hlink)

theorem namesAreFiles (h : Overwritten before location text after)
    (hfiles : before.NamesAreFiles) : after.NamesAreFiles := by
  have haliases : after.aliases = before.aliases := by rw [h.rest]
  intro names hnames name hname
  rw [haliases] at hnames
  by_cases hsame : name ∈ before.namesOf location
  · obtain ⟨mode, hnode⟩ := h.held name hsame
    exact ⟨_, mode, hnode⟩
  · rw [h.kept name hsame]
    exact hfiles names hnames name hname

theorem leadsTo_iff (h : Overwritten before location text after)
    (hshape : FileTree.SameShape before.tree after.tree) {place : Location} :
    after.LeadsTo path place ↔ before.LeadsTo path place := by
  rw [LeadsTo, LeadsTo, h.workingDirectory_eq, hshape.resolve_eq_ok_iff]

theorem writable_iff (h : Overwritten before location text after)
    (hshape : FileTree.SameShape before.tree after.tree) :
    after.Writable path ↔ before.Writable path := by
  unfold Writable
  simp only [h.leadsTo_iff hshape, hshape.directory]

end Overwritten

end BuiltinWrappers.Host
