import BuiltinWrappers.Proofs.Host.Built

/-!
# Hosts that differ in the contents of some files

Where two hosts agree in everything but what some files hold, every path leads to
the same place or fails in the same way on both.  So a step that reads none of these
files goes the same way on both, and what it writes is the same.
-/

namespace BuiltinWrappers

/-! ## Trees with the same nodes but for contents -/

namespace FileTree

/-- At each location the same stands in both trees, or a file in each of them. -/
def SameButContents (left right : FileTree) : Prop :=
  ∀ location, right.node? location = left.node? location ∨
    ∃ content mode other otherMode, left.node? location = some (.file content mode) ∧
      right.node? location = some (.file other otherMode)

variable {left right : FileTree} {through : Bool} {workingDirectory : Location} {path : String}

namespace SameButContents

theorem symm (h : SameButContents left right) : SameButContents right left := by
  intro location
  rcases h location with hsame | ⟨content, mode, other, otherMode, hleft, hright⟩
  · exact .inl hsame.symm
  · exact .inr ⟨other, otherMode, content, mode, hright, hleft⟩

theorem node?_eq (h : SameButContents left right) {location : Location}
    (hfile : ∀ content mode, left.node? location ≠ some (.file content mode)) :
    right.node? location = left.node? location := by
  rcases h location with hsame | ⟨content, mode, _, _, hleft, -⟩
  · exact hsame
  · exact absurd hleft (hfile content mode)

theorem node?_directory (h : SameButContents left right) {location : Location} {mode : Nat}
    (hnode : left.node? location = some (.directory mode)) :
    right.node? location = some (.directory mode) :=
  (h.node?_eq (by simp [hnode])).trans hnode

theorem node?_link (h : SameButContents left right) {location : Location} {target : String}
    (hnode : left.node? location = some (.link target)) :
    right.node? location = some (.link target) :=
  (h.node?_eq (by simp [hnode])).trans hnode

theorem node?_file (h : SameButContents left right) {location : Location} {content : ByteArray}
    {mode : Nat} (hfile : left.node? location = some (.file content mode)) :
    ∃ other otherMode, right.node? location = some (.file other otherMode) := by
  rcases h location with hsame | ⟨_, _, other, otherMode, -, hright⟩
  · exact ⟨content, mode, hsame.trans hfile⟩
  · exact ⟨other, otherMode, hright⟩

theorem walk_eq (h : SameButContents left right) (budget : Nat) (location : Location)
    (names : List String) :
    right.walk through budget location names = left.walk through budget location names := by
  fun_induction walk left through budget location names with
  | case1 => rw [walk]
  | case2 _ _ _ _ hnone =>
      rw [walk, h.node?_eq (by simp [hnone]), hnone]
  | case3 _ _ _ _ _ _ hfile =>
      obtain ⟨other, otherMode, hright⟩ := h.node?_file hfile
      rw [walk, hright]
  | case4 _ _ _ _ _ hlink => rw [walk, h.node?_link hlink]
  | case5 _ _ _ _ _ hdirectory hstay ih =>
      rw [walk, h.node?_directory hdirectory]
      simp only [if_pos hstay, ih]
  | case6 _ _ _ _ hdirectory hstay ih =>
      rw [walk, h.node?_directory hdirectory]
      simp only [if_neg hstay, if_true, ih]
  | case7 _ _ _ _ _ hdirectory hstay hdots hlong =>
      rw [walk, h.node?_directory hdirectory]
      simp only [if_neg hstay, if_neg hdots, if_pos hlong]
  | case8 _ _ _ _ _ hdirectory hstay hdots hlong child _ hlink hend =>
      have hchild := h.node?_link hlink
      rw [walk, h.node?_directory hdirectory]
      simp only [if_neg hstay, if_neg hdots, if_neg hlong, child] at hchild ⊢
      rw [hchild]
      simp only [if_pos hend]
  | case9 _ _ _ _ _ hdirectory hstay hdots hlong child _ hlink hend hleft _ ih =>
      have hchild := h.node?_link hlink
      rw [walk, h.node?_directory hdirectory]
      simp only [if_neg hstay, if_neg hdots, if_neg hlong, child] at hchild ⊢
      rw [hchild]
      simp only [if_neg hend, dif_pos hleft]
      exact ih
  | case10 _ _ _ _ _ hdirectory hstay hdots hlong child _ hlink hend hleft =>
      have hchild := h.node?_link hlink
      rw [walk, h.node?_directory hdirectory]
      simp only [if_neg hstay, if_neg hdots, if_neg hlong, child] at hchild ⊢
      rw [hchild]
      simp only [if_neg hend, dif_neg hleft]
  | case11 _ _ _ _ _ hdirectory hstay hdots hlong _ hplain ih =>
      rw [walk, h.node?_directory hdirectory]
      simp only [if_neg hstay, if_neg hdots, if_neg hlong]
      split
      next target hlink => exact absurd (h.symm.node?_link hlink) (hplain target)
      · exact ih

theorem resolve_eq (h : SameButContents left right) :
    right.resolve workingDirectory path = left.resolve workingDirectory path := by
  simp only [resolve, resolveFrom, h.walk_eq]

theorem isFile_eq (h : SameButContents left right) (location : Location) :
    (right.node? location).any Node.isFile = (left.node? location).any Node.isFile := by
  rcases h location with hsame | ⟨_, _, _, _, hleft, hright⟩
  · rw [hsame]
  · rw [hleft, hright]
    rfl

theorem isDirectory_eq (h : SameButContents left right) (location : Location) :
    right.isDirectory location = left.isDirectory location := by
  unfold isDirectory
  rcases h location with hsame | ⟨_, _, _, _, hleft, hright⟩
  · rw [hsame]
  · rw [hleft, hright]
    rfl

theorem look_eq (h : SameButContents left right) (directory : Location) :
    EnvironmentFile.look right directory = EnvironmentFile.look left directory := by
  simp only [EnvironmentFile.look, h.resolve_eq, h.isFile_eq]

theorem placeIn?_eq (h : SameButContents left right) (directories : List Location) :
    EnvironmentFile.placeIn? right directories = EnvironmentFile.placeIn? left directories := by
  induction directories with
  | nil => rfl
  | cons directory above ih =>
      rw [EnvironmentFile.placeIn?, EnvironmentFile.placeIn?, h.look_eq, ih]

end SameButContents

end FileTree

namespace Host

/-! ## Differences in contents -/

/-- All but what stands at these places is the same. -/
structure SameElsewhere (places : Location → Prop) (left right : Host) : Prop where
  kept : ∀ place, ¬places place → right.tree.nodes[place]? = left.tree.nodes[place]?
  rest : right = { left with tree := right.tree }

/-- At these places a file stands in both hosts, with the same mode; all else is the same. -/
structure ContentsDifferAt (places : Location → Prop) (left right : Host) : Prop
    extends SameElsewhere places left right where
  files : ∀ place, places place → ∃ content other mode,
    left.tree.node? place = some (.file content mode) ∧
      right.tree.node? place = some (.file other mode)

variable {places : Location → Prop} {left right after : Host} {path text : String}
  {location : Location} {cause : SystemFault}

theorem SameElsewhere.mono {more : Location → Prop} (h : SameElsewhere places left right)
    (hmore : ∀ place, places place → more place) : SameElsewhere more left right :=
  ⟨fun place hplace => h.kept place (mt (hmore place) hplace), h.rest⟩

namespace ContentsDifferAt

theorem differOnlyAt (h : ContentsDifferAt places left right) :
    DifferOnlyAt places left right where
  kept := h.kept
  files := by
    intro place hplace
    obtain ⟨content, other, mode, hleft, hright⟩ := h.files place hplace
    constructor <;> intro node hnode
    · obtain rfl := Option.some.inj (hleft.symm.trans hnode)
      rfl
    · obtain rfl := Option.some.inj (hright.symm.trans hnode)
      rfl
  mode := by
    intro place hplace
    obtain ⟨content, other, mode, hleft, hright⟩ := h.files place hplace
    rw [modeAt, modeAt, hleft, hright]
  rest := h.rest

theorem sameButContents (h : ContentsDifferAt places left right) :
    FileTree.SameButContents left.tree right.tree := by
  intro place
  by_cases hplace : places place
  · obtain ⟨content, other, mode, hleft, hright⟩ := h.files place hplace
    exact .inr ⟨content, mode, other, mode, hleft, hright⟩
  · exact .inl (FileTree.node?_congr (h.kept place hplace))

theorem resolve_eq (h : ContentsDifferAt places left right) (path : String) :
    right.tree.resolve right.workingDirectory path =
      left.tree.resolve left.workingDirectory path := by
  have hdirectory : right.workingDirectory = left.workingDirectory := by rw [h.rest]
  rw [hdirectory, h.sameButContents.resolve_eq]

theorem read_eq (h : ContentsDifferAt places left right)
    (hpath : ∀ location, left.LeadsTo path location → ¬places location) :
    right.tree.read right.workingDirectory path = left.tree.read left.workingDirectory path := by
  unfold FileTree.read
  rw [h.resolve_eq]
  cases hresolve : left.tree.resolve left.workingDirectory path with
  | error cause => rfl
  | ok location =>
      have hnode := FileTree.node?_congr (h.kept location (hpath location hresolve))
      simp only [bind, Except.bind, hnode]

theorem readText_eq (h : ContentsDifferAt places left right)
    (hpath : ∀ location, left.LeadsTo path location → ¬places location) :
    right.readText path = left.readText path := by
  simp only [readText, FileTree.readText, h.read_eq hpath]

/-- No content decides where the environment file is found. -/
theorem place?_eq (h : ContentsDifferAt places left right) :
    EnvironmentFile.place? right = EnvironmentFile.place? left := by
  have hdirectory : right.workingDirectory = left.workingDirectory := by rw [h.rest]
  simp only [EnvironmentFile.place?, hdirectory, h.sameButContents.isDirectory_eq,
    h.sameButContents.placeIn?_eq]

theorem write_error (h : ContentsDifferAt places left right)
    (hwrite : left.write path text = .error cause) : right.write path text = .error cause := by
  rw [write, writeBytes] at hwrite ⊢
  rw [h.resolve_eq]
  rcases bind_eq_error_iff.mp hwrite with hresolve | ⟨location, hresolve, hreplace⟩
  · rw [hresolve]
    rfl
  · rw [hresolve]
    change right.replaceContent location text.toUTF8 = _
    unfold replaceContent at hreplace ⊢
    split at hreplace
    next hdirectory =>
      rw [h.sameButContents.node?_directory hdirectory]
      exact hreplace
    · contradiction
    · contradiction
    · contradiction

theorem write_ok (h : ContentsDifferAt places left right) (hpath : left.LeadsTo path location)
    (hwrite : left.write path text = .ok after) :
    ∃ other, right.write path text = .ok other ∧
      ContentsDifferAt (fun place => places place ∧ place ∉ left.namesOf location) after other := by
  obtain ⟨other, hother, hdiffers⟩ := h.differOnlyAt.write hpath hwrite
  refine ⟨other, hother, ⟨⟨hdiffers.kept, hdiffers.rest⟩, ?_⟩⟩
  rintro place ⟨hplace, hname⟩
  obtain ⟨found, hfound, -, rfl⟩ := write_eq_ok_iff.mp hwrite
  obtain rfl := hpath.unique hfound
  obtain ⟨found, hfound, -, rfl⟩ := write_eq_ok_iff.mp hother
  obtain rfl := (h.differOnlyAt.leadsTo_iff.mpr hpath).unique hfound
  rw [node?_store_of_not_mem hname, node?_store_of_not_mem (h.differOnlyAt.namesOf_eq ▸ hname)]
  exact h.files place hplace

end ContentsDifferAt

/-! ## Hosts that are written down -/

theorem contentsDifferAt_built {directories : List Location} {name : Location}
    {files : List (Location × String)}
    {aliases : List (List Location)} {text other : String}
    (h : FitTogether directories ((name, text) :: files) aliases)
    (hother : FitTogether directories ((name, other) :: files) aliases)
    (hname : (built directories ((name, text) :: files) aliases).namesOf name = [name]) :
    ContentsDifferAt (· ∈ (built directories ((name, text) :: files) aliases).namesOf name)
      (built directories ((name, text) :: files) aliases)
      (built directories ((name, other) :: files) aliases) := by
  rw [hname]
  refine ⟨⟨?_, rfl⟩, ?_⟩
  · intro place hplace
    have hne : ¬name = place := fun heq => hplace (by simp [heq])
    simp [built, FileTree.set, Std.ExtTreeMap.getElem?_insert, hne]
  · intro place hplace
    obtain rfl : place = name := by simpa using hplace
    exact ⟨text.toUTF8, other.toUTF8, 0o644, h.node?_file List.lookup_cons_self,
      hother.node?_file List.lookup_cons_self⟩

end Host

end BuiltinWrappers
