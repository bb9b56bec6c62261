import BuiltinWrappers.Proofs.Host.Writing

/-!
# Hosts that differ in some files

Two hosts may agree in everything but what some places hold, where each of them
has a file or nothing.  No path can tell them apart, so what is written to one is
written to the other, and a place that is written is no difference any longer.
-/

namespace BuiltinWrappers

/-! ## Places in directories -/

namespace FileTree

/-- Whatever stands somewhere stands in a directory. -/
def Grounded (tree : FileTree) : Prop :=
  ∀ location node, tree.node? location = some node → tree.isDirectory location.dropLast

theorem pathNames_ne_nil (path : String) : pathNames path ≠ [] := by
  simp [pathNames, List.splitOn_ne_nil]

variable {tree other : FileTree} {budget : Nat} {location place workingDirectory : Location}
  {names : List String} {path : String}

theorem not_link_of_isDirectory (h : tree.isDirectory place) (target : String) :
    tree.node? place ≠ some (.link target) := by
  obtain ⟨mode, hnode⟩ := isDirectory_iff.mp h
  simp [hnode]

theorem Leads.not_link (h : Leads tree budget location names place) (hgrounded : tree.Grounded)
    (hnames : names ≠ []) (target : String) : tree.node? place ≠ some (.link target) := by
  induction h with
  | nil => exact absurd rfl hnames
  | @stay _ _ _ _ rest hdirectory _ hrest ih =>
      cases rest with
      | nil =>
          cases hrest
          exact not_link_of_isDirectory hdirectory target
      | cons => exact ih (by simp)
  | @up _ _ _ rest hdirectory hrest ih =>
      cases rest with
      | nil =>
          cases hrest
          obtain ⟨mode, hnode⟩ := isDirectory_iff.mp hdirectory
          exact not_link_of_isDirectory (hgrounded _ _ hnode) target
      | cons => exact ih (by simp)
  | @down _ _ _ _ rest _ _ hplain hrest ih =>
      cases rest with
      | nil =>
          cases hrest
          exact hplain target
      | cons => exact ih (by simp)
  | along _ _ _ _ ih => exact ih (by simp [pathNames_ne_nil])

theorem Grounded.not_link_of_resolve (hgrounded : tree.Grounded)
    (h : tree.resolve workingDirectory path = .ok place) (target : String) :
    tree.node? place ≠ some (.link target) :=
  (resolve_eq_ok_iff.mp h).2.not_link hgrounded (pathNames_ne_nil path) target

theorem node?_congr (h : tree.nodes[place]? = other.nodes[place]?) :
    tree.node? place = other.node? place := by
  unfold node?
  rw [h]

end FileTree

namespace Host

variable {left middle right before after : Host} {location place : Location}
  {places : Location → Prop} {path text : String}

/-! ## One file under several names -/

/-- A file stands at the place, or nothing does. -/
def FileOrFree (host : Host) (place : Location) : Prop :=
  ∀ node, host.tree.node? place = some node → node.isFile

theorem FileOrFree.not_isDirectory (h : left.FileOrFree place) :
    ¬left.tree.isDirectory place := by
  rw [FileTree.isDirectory_iff]
  rintro ⟨mode, hnode⟩
  simpa [Node.isFile] using h _ hnode

theorem FileOrFree.not_link (h : left.FileOrFree place) (target : String) :
    left.tree.node? place ≠ some (.link target) := by
  intro hnode
  simpa [Node.isFile] using h _ hnode

/-- Whatever stands somewhere stands in a directory, and names of one file lead to the same. -/
structure Sound (host : Host) : Prop where
  grounded : host.tree.Grounded
  agree : ∀ names ∈ host.aliases, ∀ first ∈ names, ∀ second ∈ names,
    host.tree.node? first = host.tree.node? second

theorem Sound.node?_of_mem_namesOf (h : left.Sound) (hplace : place ∈ left.namesOf location) :
    left.tree.node? place = left.tree.node? location := by
  rcases left.namesOf_eq_or_mem location with hone | hmany
  · rw [hone, List.mem_singleton] at hplace
    rw [hplace]
  · exact h.agree _ hmany _ hplace _ (left.mem_namesOf location)

theorem Sound.fileOrFree (h : left.Sound) (hpath : left.LeadsTo path location)
    (hlocation : ¬left.tree.isDirectory location) (hplace : place ∈ left.namesOf location) :
    left.FileOrFree place := by
  intro node hnode
  rw [h.node?_of_mem_namesOf hplace] at hnode
  cases node with
  | file content mode => rfl
  | directory mode => exact absurd (FileTree.isDirectory_iff.mpr ⟨mode, hnode⟩) hlocation
  | link target => exact absurd hnode (h.grounded.not_link_of_resolve hpath target)

/-! ## Differences -/

/--
The hosts agree but for what stands at these places: in each host a file or
nothing, with the same mode once it is written.
-/
structure DifferOnlyAt (places : Location → Prop) (left right : Host) : Prop where
  kept : ∀ place, ¬places place → right.tree.nodes[place]? = left.tree.nodes[place]?
  files : ∀ place, places place → left.FileOrFree place ∧ right.FileOrFree place
  mode : ∀ place, places place → right.modeAt place = left.modeAt place
  rest : right = { left with tree := right.tree }

namespace DifferOnlyAt

theorem node?_eq (h : DifferOnlyAt places left right) (hplace : ¬places place) :
    right.tree.node? place = left.tree.node? place :=
  FileTree.node?_congr (h.kept place hplace)

theorem namesOf_eq (h : DifferOnlyAt places left right) : right.namesOf = left.namesOf := by
  rw [h.rest]
  rfl

theorem modeAt_eq (h : DifferOnlyAt places left right) (place : Location) :
    right.modeAt place = left.modeAt place := by
  by_cases hplace : places place
  · exact h.mode place hplace
  · have hmask : right.creationMask = left.creationMask := by rw [h.rest]
    simp only [modeAt, maskedMode, h.node?_eq hplace, hmask]

theorem fileOrFree_iff (h : DifferOnlyAt places left right) (place : Location) :
    right.FileOrFree place ↔ left.FileOrFree place := by
  by_cases hplace : places place
  · exact iff_of_true (h.files place hplace).2 (h.files place hplace).1
  · unfold FileOrFree
    rw [h.node?_eq hplace]

theorem sameShape (h : DifferOnlyAt places left right) :
    FileTree.SameShape left.tree right.tree := by
  constructor
  · intro place
    by_cases hplace : places place
    · obtain ⟨hleft, hright⟩ := h.files place hplace
      exact iff_of_false hleft.not_isDirectory hright.not_isDirectory
    · rw [FileTree.isDirectory_iff, FileTree.isDirectory_iff, h.node?_eq hplace]
  · intro place target
    by_cases hplace : places place
    · obtain ⟨hleft, hright⟩ := h.files place hplace
      exact iff_of_false (hleft.not_link target) (hright.not_link target)
    · rw [h.node?_eq hplace]

theorem leadsTo_iff (h : DifferOnlyAt places left right) :
    right.LeadsTo path place ↔ left.LeadsTo path place := by
  have hdirectory : right.workingDirectory = left.workingDirectory := by rw [h.rest]
  rw [LeadsTo, LeadsTo, hdirectory, h.sameShape.resolve_eq_ok_iff]

theorem eq_of_nowhere (h : DifferOnlyAt places left right) (hplaces : ∀ place, ¬places place) :
    right = left := by
  have htree : right.tree = left.tree :=
    FileTree.ext fun place => h.kept place (hplaces place)
  rw [h.rest, htree]

theorem trans {others : Location → Prop} (h : DifferOnlyAt places left middle)
    (hnext : DifferOnlyAt others middle right) :
    DifferOnlyAt (fun place => places place ∨ others place) left right := by
  constructor
  · intro place hplace
    rw [not_or] at hplace
    rw [hnext.kept place hplace.2, h.kept place hplace.1]
  · intro place hplace
    rw [hnext.fileOrFree_iff, h.fileOrFree_iff, and_self]
    rcases hplace with hfirst | hsecond
    · exact (h.files place hfirst).1
    · exact (h.fileOrFree_iff place).mp (hnext.files place hsecond).1
  · intro place _
    rw [hnext.modeAt_eq, h.modeAt_eq]
  · rw [hnext.rest, h.rest]

end DifferOnlyAt

/-! ## Writing -/

theorem node?_store_of_not_mem {node : Node} (h : place ∉ left.namesOf location) :
    (left.store location node).tree.node? place = left.tree.node? place := by
  apply FileTree.node?_congr
  rw [nodes_store, if_neg h]

theorem fileOrFree_store_of_not_mem {node : Node} (h : place ∉ left.namesOf location) :
    (left.store location node).FileOrFree place ↔ left.FileOrFree place := by
  unfold FileOrFree
  rw [node?_store_of_not_mem h]

theorem modeAt_store_of_not_mem {node : Node} (h : place ∉ left.namesOf location) :
    (left.store location node).modeAt place = left.modeAt place := by
  unfold modeAt
  rw [node?_store_of_not_mem h]
  rfl

/-- Under all names of a location there is one file, or one that may be made. -/
def OneFileAt (host : Host) (location : Location) : Prop :=
  ∀ name ∈ host.namesOf location,
    host.FileOrFree name ∧ host.modeAt name = host.modeAt location

theorem Sound.oneFileAt (h : left.Sound) (hpath : left.LeadsTo path location)
    (hlocation : ¬left.tree.isDirectory location) : left.OneFileAt location := by
  intro name hname
  refine ⟨h.fileOrFree hpath hlocation hname, ?_⟩
  unfold modeAt
  rw [h.node?_of_mem_namesOf hname]

namespace DifferOnlyAt

theorem oneFileAt_iff (h : DifferOnlyAt places left right) :
    right.OneFileAt location ↔ left.OneFileAt location := by
  unfold OneFileAt
  simp only [h.namesOf_eq, h.fileOrFree_iff, h.modeAt_eq]

theorem of_write (hone : before.OneFileAt location) (hpath : before.LeadsTo path location)
    (hwrite : before.write path text = .ok after) :
    DifferOnlyAt (· ∈ before.namesOf location) before after := by
  have hnode : ∀ place ∈ before.namesOf location,
      after.tree.node? place = some (.file text.toUTF8 (before.modeAt location)) :=
    fun place hplace => node?_of_write hpath hwrite hplace
      (FileTree.ne_nil_of_not_isDirectory (hone place hplace).1.not_isDirectory)
  obtain ⟨found, hfound, -, rfl⟩ := write_eq_ok_iff.mp hwrite
  obtain rfl := hpath.unique hfound
  constructor
  · intro place hplace
    rw [nodes_store, if_neg hplace]
  · intro place hplace
    refine ⟨(hone place hplace).1, ?_⟩
    intro node hstored
    obtain rfl := Option.some.inj ((hnode place hplace).symm.trans hstored)
    rfl
  · intro place hplace
    rw [(hone place hplace).2, modeAt, hnode place hplace]
  · rfl

theorem write (h : DifferOnlyAt places left right) (hpath : left.LeadsTo path location)
    (hwrite : left.write path text = .ok after) :
    ∃ other, right.write path text = .ok other ∧
      DifferOnlyAt (fun place => places place ∧ place ∉ left.namesOf location) after other := by
  obtain ⟨found, hfound, hplace, rfl⟩ := write_eq_ok_iff.mp hwrite
  obtain rfl := hpath.unique hfound
  have hother : ¬right.tree.isDirectory location :=
    mt (h.sameShape.directory location).mpr hplace
  refine ⟨_, write_eq_ok_iff.mpr ⟨location, h.leadsTo_iff.mpr hpath, hother, rfl⟩, ?_⟩
  rw [h.modeAt_eq]
  constructor
  · intro place hplace
    rw [nodes_store, nodes_store, h.namesOf_eq]
    split
    · rfl
    next hname => exact h.kept place fun hdiffers => hplace ⟨hdiffers, hname⟩
  · rintro place ⟨hdiffers, hname⟩
    rw [fileOrFree_store_of_not_mem hname,
      fileOrFree_store_of_not_mem (h.namesOf_eq ▸ hname)]
    exact h.files place hdiffers
  · rintro place ⟨hdiffers, hname⟩
    rw [modeAt_store_of_not_mem hname, modeAt_store_of_not_mem (h.namesOf_eq ▸ hname)]
    exact h.mode place hdiffers
  · rw [store, store, h.rest]

end DifferOnlyAt

/-! ## Reading -/

theorem DifferOnlyAt.read_eq (h : DifferOnlyAt places left right) {content : ByteArray}
    (hread : left.tree.read left.workingDirectory path = .ok content)
    (hpath : ∀ location, left.LeadsTo path location → ¬places location) :
    right.tree.read right.workingDirectory path = .ok content := by
  obtain ⟨location, hleads, hnode⟩ := bind_eq_ok_iff.mp hread
  refine bind_eq_ok_iff.mpr ⟨location, h.leadsTo_iff.mpr hleads, ?_⟩
  rw [h.node?_eq (hpath location hleads)]
  exact hnode

theorem DifferOnlyAt.readText_eq (h : DifferOnlyAt places left right)
    (hread : left.readText path = .ok text)
    (hpath : ∀ location, left.LeadsTo path location → ¬places location) :
    right.readText path = .ok text := by
  obtain ⟨content, hcontent, htext⟩ := bind_eq_ok_iff.mp hread
  exact bind_eq_ok_iff.mpr ⟨content, h.read_eq hcontent hpath, htext⟩

end Host

end BuiltinWrappers
