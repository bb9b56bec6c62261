import BuiltinWrappers.Host

/-!
# Where a path leads

A path leads from directory to directory, so only directories and links decide
where it ends, and no change of a file's content leads it elsewhere.  In a tree
without links the last name of a path is the last name of its location too.
-/

namespace BuiltinWrappers.FileTree

/-! ## Directories and links -/

theorem isDirectory_iff {tree : FileTree} {location : Location} :
    tree.isDirectory location ↔ ∃ mode, tree.node? location = some (.directory mode) := by
  unfold isDirectory
  cases tree.node? location with
  | none => simp
  | some node => cases node <;> simp [Node.isDirectory]

theorem ne_nil_of_not_isDirectory {tree : FileTree} {location : Location}
    (h : ¬tree.isDirectory location) : location ≠ [] := by
  rintro rfl
  exact h rfl

def LinkFree (tree : FileTree) : Prop :=
  ∀ location target, tree.node? location ≠ some (.link target)

/-- The same locations hold directories, and the same locations hold the same links. -/
structure SameShape (left right : FileTree) : Prop where
  directory : ∀ location, left.isDirectory location ↔ right.isDirectory location
  link : ∀ location target,
    left.node? location = some (.link target) ↔ right.node? location = some (.link target)

theorem SameShape.symm {left right : FileTree} (h : SameShape left right) :
    SameShape right left :=
  ⟨fun location => (h.directory location).symm, fun location target =>
    (h.link location target).symm⟩

/-! ## Following names -/

/-- A name that stands for an entry of a directory. -/
structure EntryName (name : String) : Prop where
  ne_empty : name ≠ ""
  ne_dot : name ≠ "."
  ne_dots : name ≠ ".."
  short : name.utf8ByteSize ≤ longestName

theorem entryName_iff {name : String} :
    name ≠ "" ∧ name ≠ "." ∧ name ≠ ".." ∧ name.utf8ByteSize ≤ longestName ↔
      EntryName name := by
  constructor
  · rintro ⟨hempty, hdot, hdots, hshort⟩
    exact ⟨hempty, hdot, hdots, hshort⟩
  · intro h
    exact ⟨h.ne_empty, h.ne_dot, h.ne_dots, h.short⟩

instance (name : String) : Decidable (EntryName name) :=
  decidable_of_decidable_of_iff entryName_iff

/-- Names lead from one location to another, through no more links than the budget allows. -/
inductive Leads (tree : FileTree) : Nat → Location → List String → Location → Prop
  | nil {budget : Nat} {location : Location} : Leads tree budget location [] location
  | stay {budget : Nat} {location place : Location} {name : String} {rest : List String}
      (hdirectory : tree.isDirectory location) (hname : name = "" ∨ name = ".")
      (hrest : Leads tree budget location rest place) :
      Leads tree budget location (name :: rest) place
  | up {budget : Nat} {location place : Location} {rest : List String}
      (hdirectory : tree.isDirectory location)
      (hrest : Leads tree budget location.dropLast rest place) :
      Leads tree budget location (".." :: rest) place
  | down {budget : Nat} {location place : Location} {name : String} {rest : List String}
      (hdirectory : tree.isDirectory location) (hname : EntryName name)
      (hplain : ∀ target, tree.node? (location ++ [name]) ≠ some (.link target))
      (hrest : Leads tree budget (location ++ [name]) rest place) :
      Leads tree budget location (name :: rest) place
  | along {budget : Nat} {location place : Location} {name target : String}
      {rest : List String}
      (hdirectory : tree.isDirectory location) (hname : EntryName name)
      (hlink : tree.node? (location ++ [name]) = some (.link target))
      (hrest : Leads tree budget (if Path.isAbsolute target then [] else location)
        (pathNames target ++ rest) place) :
      Leads tree (budget + 1) location (name :: rest) place

theorem Leads.of_walk {tree : FileTree} {budget : Nat} {location place : Location}
    {names : List String} (h : tree.walk true budget location names = .ok place) :
    Leads tree budget location names place := by
  -- The branches that succeed: no name is left, a dot, two dots, a link and a plain name.
  fun_induction walk tree true budget location names generalizing place
  case case1 =>
    obtain rfl := Except.ok.inj h
    exact .nil
  case case5 mode hnode hname ih =>
    exact .stay (isDirectory_iff.mpr ⟨mode, hnode⟩) hname (ih h)
  case case6 mode hnode _ ih =>
    exact .up (isDirectory_iff.mpr ⟨mode, hnode⟩) (ih h)
  case case8 _ _ hend => simp at hend
  case case9 mode hnode hstay hdots hlong _ _ hlink _ hleft _ ih =>
    obtain ⟨budget, rfl⟩ := Nat.exists_eq_add_one.mpr hleft
    exact .along (isDirectory_iff.mpr ⟨mode, hnode⟩)
      ⟨mt .inl hstay, mt .inr hstay, hdots, Nat.le_of_not_lt hlong⟩ hlink (ih h)
  case case11 mode hnode hstay hdots hlong _ hplain ih =>
    exact .down (isDirectory_iff.mpr ⟨mode, hnode⟩)
      ⟨mt .inl hstay, mt .inr hstay, hdots, Nat.le_of_not_lt hlong⟩ hplain (ih h)
  case case2 | case3 | case4 | case7 | case10 => simp at h

theorem Leads.walk_eq {tree : FileTree} {budget : Nat} {location place : Location}
    {names : List String} (h : Leads tree budget location names place) :
    tree.walk true budget location names = .ok place := by
  induction h with
  | nil => rw [walk]
  | stay hdirectory hname _ ih =>
      obtain ⟨mode, hnode⟩ := isDirectory_iff.mp hdirectory
      rw [walk, hnode]
      simp only [if_pos hname, ih]
  | up hdirectory _ ih =>
      obtain ⟨mode, hnode⟩ := isDirectory_iff.mp hdirectory
      rw [walk, hnode]
      simp only [ih]
      rfl
  | @down budget location place name rest hdirectory hname hplain _ ih =>
      obtain ⟨mode, hnode⟩ := isDirectory_iff.mp hdirectory
      rw [walk, hnode]
      simp only [hname.ne_empty, hname.ne_dot, hname.ne_dots, Nat.not_lt.mpr hname.short,
        or_self, if_false]
      exact ih
  | @along budget location place name target rest hdirectory hname hlink _ ih =>
      obtain ⟨mode, hnode⟩ := isDirectory_iff.mp hdirectory
      rw [walk, hnode]
      simp only [hname.ne_empty, hname.ne_dot, hname.ne_dots, Nat.not_lt.mpr hname.short,
        or_self, if_false, hlink]
      simpa using ih

theorem walk_eq_ok_iff {tree : FileTree} {budget : Nat} {location place : Location}
    {names : List String} :
    tree.walk true budget location names = .ok place ↔
      Leads tree budget location names place :=
  ⟨Leads.of_walk, Leads.walk_eq⟩

namespace Leads

variable {tree other : FileTree} {budget : Nat} {location place : Location}
  {names : List String}

theorem of_sameShape (h : Leads tree budget location names place)
    (hshape : SameShape tree other) : Leads other budget location names place := by
  induction h with
  | nil => exact .nil
  | stay hdirectory hname _ ih =>
      exact .stay ((hshape.directory _).mp hdirectory) hname ih
  | up hdirectory _ ih => exact .up ((hshape.directory _).mp hdirectory) ih
  | down hdirectory hname hplain _ ih =>
      exact .down ((hshape.directory _).mp hdirectory) hname
        (fun target hlink => hplain target ((hshape.link _ target).mpr hlink)) ih
  | along hdirectory hname hlink _ ih =>
      exact .along ((hshape.directory _).mp hdirectory) hname
        ((hshape.link _ _).mp hlink) ih

theorem getLast?_eq (h : Leads tree budget location names place)
    (hlinks : tree.LinkFree) {name : String} (hlast : names.getLast? = some name)
    (hname : EntryName name) : place.getLast? = some name := by
  induction h with
  | nil => simp at hlast
  | @stay _ _ _ first rest _ hstay _ ih =>
      cases rest with
      | nil =>
          obtain rfl : first = name := by simpa using hlast
          rcases hstay with hempty | hdot
          · exact absurd hempty hname.ne_empty
          · exact absurd hdot hname.ne_dot
      | cons next rest => exact ih (by simpa using hlast)
  | @up _ _ _ rest _ _ ih =>
      cases rest with
      | nil => exact absurd (by simpa using hlast) hname.ne_dots.symm
      | cons next rest => exact ih (by simpa using hlast)
  | @down _ _ _ first rest _ _ _ hrest ih =>
      cases rest with
      | nil =>
          obtain rfl : first = name := by simpa using hlast
          cases hrest
          simp
      | cons next rest => exact ih (by simpa using hlast)
  | along _ _ hlink _ _ => exact absurd hlink (hlinks _ _)

theorem of_directories (hlinks : tree.LinkFree) (hnames : ∀ name ∈ names, EntryName name)
    (habove : ∀ depth < names.length, tree.isDirectory (location ++ names.take depth)) :
    Leads tree budget location names (location ++ names) := by
  induction names generalizing location with
  | nil =>
      rw [List.append_nil]
      exact .nil
  | cons name names ih =>
      rw [List.forall_mem_cons] at hnames
      have hrest : Leads tree budget (location ++ [name]) names (location ++ [name] ++ names) := by
        refine ih hnames.2 ?_
        intro depth hdepth
        simpa using habove (depth + 1) (Nat.succ_lt_succ hdepth)
      rw [List.append_assoc] at hrest
      exact .down (by simpa using habove 0 (Nat.succ_pos _)) hnames.1 (hlinks _) hrest

end Leads

/-! ## Resolving paths -/

/-- A path that may be resolved at all. -/
structure Acceptable (path : String) : Prop where
  no_nul : '\x00' ∉ path.toList
  ne_empty : path ≠ ""
  short : path.utf8ByteSize ≤ longestPath

def startOf (workingDirectory : Location) (path : String) : Location :=
  if Path.isAbsolute path then [] else workingDirectory

variable {tree other : FileTree} {workingDirectory place : Location} {path : String}

theorem resolve_eq_ok_iff :
    tree.resolve workingDirectory path = .ok place ↔
      Acceptable path ∧
        Leads tree mostLinks (startOf workingDirectory path) (pathNames path) place := by
  unfold resolve resolveFrom
  split
  next hnul =>
    simp only [reduceCtorEq, false_iff]
    rintro ⟨haccepted, -⟩
    exact haccepted.no_nul (by simpa using hnul)
  next hnul =>
    split
    next hempty =>
      simp only [reduceCtorEq, false_iff]
      rintro ⟨haccepted, -⟩
      exact haccepted.ne_empty hempty
    next hempty =>
      split
      next hlong =>
        simp only [reduceCtorEq, false_iff]
        rintro ⟨haccepted, -⟩
        exact Nat.not_lt.mpr haccepted.short hlong
      next hlong =>
        have haccepted : Acceptable path :=
          ⟨by simpa using hnul, hempty, Nat.le_of_not_lt hlong⟩
        rw [walk_eq_ok_iff, startOf]
        simp [haccepted]

theorem SameShape.resolve_eq_ok_iff (hshape : SameShape tree other) :
    tree.resolve workingDirectory path = .ok place ↔
      other.resolve workingDirectory path = .ok place := by
  rw [FileTree.resolve_eq_ok_iff, FileTree.resolve_eq_ok_iff]
  constructor
  · rintro ⟨haccepted, hleads⟩
    exact ⟨haccepted, hleads.of_sameShape hshape⟩
  · rintro ⟨haccepted, hleads⟩
    exact ⟨haccepted, hleads.of_sameShape hshape.symm⟩

theorem getLast?_of_resolve (hlinks : tree.LinkFree)
    (h : tree.resolve workingDirectory path = .ok place) {name : String}
    (hlast : (pathNames path).getLast? = some name) (hname : EntryName name) :
    place.getLast? = some name :=
  (FileTree.resolve_eq_ok_iff.mp h).2.getLast?_eq hlinks hlast hname

end BuiltinWrappers.FileTree
