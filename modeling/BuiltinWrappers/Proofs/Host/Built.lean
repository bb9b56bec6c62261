import BuiltinWrappers.Proofs.Host.Difference
import BuiltinWrappers.Proofs.Host.EnvironmentFile

/-!
# Hosts with some files

Small hosts that are written down as their directories, their files and the names
that are names of one file.  If these fit together, such a host is sound, and a path
of plain names leads to the place that it spells.
-/

namespace BuiltinWrappers.Host

def built (directories : List Location) (files : List (Location × String))
    (aliases : List (List Location)) : Host where
  tree := files.foldr (fun file tree => tree.set file.1 (.file file.2.toUTF8 0o644))
    (directories.foldr (fun place tree => tree.set place (.directory 0o755)) .empty)
  aliases := aliases

/-- Everything stands in a directory, and names of one file name files that hold the same. -/
structure FitTogether (directories : List Location) (files : List (Location × String))
    (aliases : List (List Location)) : Prop where
  apart : ∀ place ∈ [] :: directories, files.lookup place = none
  parents : ∀ place ∈ directories ++ files.map Prod.fst, place.dropLast ∈ [] :: directories
  named : ∀ names ∈ aliases, ∀ name ∈ names, name ∈ files.map Prod.fst
  agree : ∀ names ∈ aliases, ∀ first ∈ names, ∀ second ∈ names,
    files.lookup first = files.lookup second

variable {directories : List Location} {files : List (Location × String)}
  {aliases : List (List Location)} {place : Location}

theorem node?_directories (hplace : place ≠ []) (directories : List Location) :
    (directories.foldr (fun place tree => tree.set place (.directory 0o755))
      FileTree.empty).node? place =
        if place ∈ directories then some (.directory 0o755) else none := by
  induction directories with
  | nil => simp [FileTree.node?, FileTree.empty, hplace]
  | cons directory directories ih =>
      rw [List.foldr_cons]
      by_cases hsame : place = directory
      · subst hsame
        rw [FileTree.node?_set_self hplace]
        simp
      · rw [FileTree.node?_set_of_ne hsame, ih]
        simp [hsame]

theorem node?_built (hplace : place ≠ []) :
    (built directories files aliases).tree.node? place =
      match files.lookup place with
      | some text => some (.file text.toUTF8 0o644)
      | none => if place ∈ directories then some (.directory 0o755) else none := by
  unfold built
  induction files with
  | nil => exact node?_directories hplace directories
  | cons file files ih =>
      obtain ⟨name, text⟩ := file
      rw [List.foldr_cons]
      by_cases hsame : place = name
      · subst hsame
        rw [FileTree.node?_set_self hplace, List.lookup_cons_self]
      · rw [FileTree.node?_set_of_ne hsame, ih]
        simp only [List.lookup_cons, beq_false_of_ne hsame]

theorem linkFree_built : (built directories files aliases).tree.LinkFree := by
  intro place target
  by_cases hplace : place = []
  · simp [hplace, FileTree.node?, FileTree.topDirectory]
  · rw [node?_built hplace]
    split
    · simp
    · split <;> simp

theorem writable_built {path : String}
    (hleads : (built directories files aliases).LeadsTo path place)
    (hplace : place ∉ [] :: directories) :
    (built directories files aliases).Writable path := by
  rw [List.mem_cons, not_or] at hplace
  refine ⟨place, hleads, ?_⟩
  rw [FileTree.isDirectory_iff, node?_built hplace.1, if_neg hplace.2]
  split <;> simp

theorem mem_of_lookup {text : String} (h : files.lookup place = some text) :
    place ∈ files.map Prod.fst := by
  obtain ⟨before, after, rfl, -⟩ := List.lookup_eq_some_iff.mp h
  simp

theorem exists_lookup_of_mem (h : place ∈ files.map Prod.fst) :
    ∃ text, files.lookup place = some text := by
  cases hfile : files.lookup place with
  | some text => exact ⟨text, rfl⟩
  | none =>
      obtain ⟨file, hmem, rfl⟩ := List.mem_map.mp h
      simpa using List.lookup_eq_none_iff.mp hfile file hmem

namespace FitTogether

theorem isDirectory (h : FitTogether directories files aliases)
    (hplace : place ∈ [] :: directories) :
    (built directories files aliases).tree.isDirectory place := by
  by_cases htop : place = []
  · subst htop
    rfl
  · rw [FileTree.isDirectory_iff, node?_built htop, h.apart place hplace]
    have hmem : place ∈ directories := by simpa [htop] using hplace
    simp [hmem]

theorem node?_file (h : FitTogether directories files aliases) {text : String}
    (hfile : files.lookup place = some text) :
    (built directories files aliases).tree.node? place = some (.file text.toUTF8 0o644) := by
  have htop : place ≠ [] := by
    rintro rfl
    simp [h.apart [] List.mem_cons_self] at hfile
  rw [node?_built htop, hfile]

theorem sound (h : FitTogether directories files aliases) :
    (built directories files aliases).Sound := by
  constructor
  · intro place node hnode
    by_cases htop : place = []
    · subst htop
      rfl
    · apply h.isDirectory
      apply h.parents
      rw [node?_built htop] at hnode
      cases hfile : files.lookup place with
      | some text => exact List.mem_append_right _ (mem_of_lookup hfile)
      | none =>
          rw [hfile] at hnode
          by_cases hmem : place ∈ directories
          · exact List.mem_append_left _ hmem
          · simp [hmem] at hnode
  · intro names hnames first hfirst second hsecond
    obtain ⟨text, hfile⟩ := exists_lookup_of_mem (h.named names hnames first hfirst)
    have hsame := h.agree names hnames first hfirst second hsecond
    rw [h.node?_file hfile, h.node?_file (hsame ▸ hfile)]

theorem namesAreFiles (h : FitTogether directories files aliases) :
    (built directories files aliases).NamesAreFiles := by
  intro names hnames name hname
  obtain ⟨text, hfile⟩ := exists_lookup_of_mem (h.named names hnames name hname)
  exact ⟨_, _, h.node?_file hfile⟩

/-- Dots and slashes in front of the names change nothing. -/
theorem leadsTo (h : FitTogether directories files aliases) {path : String}
    {front names : List String} (haccepted : FileTree.Acceptable path)
    (hfront : ∀ name ∈ front, name = "" ∨ name = ".")
    (hnames : FileTree.pathNames path = front ++ names)
    (hentries : ∀ name ∈ names, FileTree.EntryName name)
    (habove : ∀ depth < names.length, names.take depth ∈ [] :: directories) :
    (built directories files aliases).LeadsTo path names := by
  have hleads {budget : Nat} : FileTree.Leads (built directories files aliases).tree budget []
      names names :=
    FileTree.Leads.of_directories linkFree_built hentries
      fun depth hdepth => h.isDirectory (habove depth hdepth)
  have hstart : FileTree.startOf (built directories files aliases).workingDirectory path = [] :=
    ite_self []
  refine FileTree.resolve_eq_ok_iff.mpr ⟨haccepted, ?_⟩
  rw [hstart, hnames]
  clear hnames
  induction front with
  | nil => exact hleads
  | cons name front ih =>
      rw [List.forall_mem_cons] at hfront
      exact .stay rfl hfront.1 (ih hfront.2)

theorem leadsTo_name (h : FitTogether directories files aliases) {path : String}
    (haccepted : FileTree.Acceptable path) (hentry : FileTree.EntryName path)
    (hnames : FileTree.pathNames path = [path]) :
    (built directories files aliases).LeadsTo path [path] :=
  h.leadsTo haccepted (by simp) (hnames.trans (List.nil_append _).symm) (by simpa using hentry)
    (by simp)

theorem holds (h : FitTogether directories files aliases) {path text : String}
    (hleads : (built directories files aliases).LeadsTo path place)
    (hfile : files.lookup place = some text) :
    (built directories files aliases).Holds path text :=
  hleads.holds (h.node?_file hfile)

/-! ## Their environment files -/

theorem place?_eq (h : FitTogether directories files aliases) {text : String}
    (hfile : files.lookup [EnvironmentFile.fileName] = some text) :
    EnvironmentFile.place? (built directories files aliases) =
      some [EnvironmentFile.fileName] := by
  have hleads : (built directories files aliases).LeadsTo
      (FileTree.pathTo [EnvironmentFile.fileName]) [EnvironmentFile.fileName] :=
    h.leadsTo (by constructor <;> decide) (List.forall_mem_singleton.mpr (.inl rfl)) (by decide)
      (by decide) (by simp)
  have hhome : (built directories files aliases).tree.isDirectory
      (built directories files aliases).workingDirectory := rfl
  rw [EnvironmentFile.place?, if_pos hhome]
  refine EnvironmentFile.placeIn?_eq_some_iff.mpr ⟨[], [], [], rfl, by simp, ?_⟩
  refine EnvironmentFile.look_eq_found_iff.mpr ⟨hleads, ?_⟩
  rw [h.node?_file hfile]
  rfl

theorem content?_eq (h : FitTogether directories files aliases) {text : String}
    (hfile : files.lookup [EnvironmentFile.fileName] = some text) :
    EnvironmentFile.content? (built directories files aliases) = some text.toUTF8 :=
  EnvironmentFile.content?_eq_some_iff.mpr ⟨_, _, h.place?_eq hfile, h.node?_file hfile⟩

theorem environment?_eq (h : FitTogether directories files aliases) {text : String}
    (hfile : files.lookup [EnvironmentFile.fileName] = some text) :
    EnvironmentFile.environment? (built directories files aliases) =
      EnvironmentFile.read? ∅ text.toUTF8 := by
  rw [EnvironmentFile.environment?, h.content?_eq hfile]
  rfl

end FitTogether

/-! ## A single file -/

/-- The top directory holds one file, and nothing else is there. -/
def holding (name text : String) : Host := built [] [([name], text)] []

theorem fitTogether_holding (name text : String) : FitTogether [] [([name], text)] [] := by
  constructor <;> simp

theorem holds_holding (name : String) (haccepted : FileTree.Acceptable name)
    (hentry : FileTree.EntryName name) (hnames : FileTree.pathNames name = [name])
    (text : String) : (holding name text).Holds name text :=
  (fitTogether_holding name text).holds
    ((fitTogether_holding name text).leadsTo_name haccepted hentry hnames) (by simp)

theorem environment?_holding (text : String) :
    EnvironmentFile.environment? (holding EnvironmentFile.fileName text) =
      EnvironmentFile.read? ∅ text.toUTF8 :=
  (fitTogether_holding EnvironmentFile.fileName text).environment?_eq (by simp)

end BuiltinWrappers.Host
