import BuiltinWrappers.Proofs.Catalog.Registration
import BuiltinWrappers.Proofs.Generation.Rendering
import Mathlib.Logic.Relation

/-!
# What the headers depend on

A wrapper reads two declarations, the one of its own name and the one of the
builtin behind it, and only a part of each.  Catalogs that agree on these parts
give the same headers or the same fault, so whatever else is edited in a text
does not show in what is generated from it.
-/

namespace BuiltinWrappers

/-! ## The parts that are read -/

def Declaration.librarySignature? (declaration : Declaration) : Option String :=
  if declaration.isLibrary then some declaration.signature else none

/--
Two catalogs agree on what a wrapper of the name reads.  Both lack the name, or
have it plain, or as a library function of the same signature, and both lack the
builtin behind it, or have it with the same redirection.
-/
structure Catalog.AgreeOn (name : String) (left right : Catalog) : Prop where
  library : (left.find? name).map Declaration.librarySignature? =
    (right.find? name).map Declaration.librarySignature?
  builtin : (left.find? (builtinName name)).map Declaration.isRedirected =
    (right.find? (builtinName name)).map Declaration.isRedirected

/-! ## Wrappers from catalogs that agree -/

private theorem map_eq_map_cases {α β : Type} {part : α → β} {left right : Option α}
    (h : left.map part = right.map part) :
    left = none ∧ right = none ∨
      ∃ first second, left = some first ∧ right = some second ∧ part first = part second := by
  cases left with
  | none => exact .inl ⟨rfl, by simpa using h.symm⟩
  | some first =>
      obtain ⟨second, hright, hpart⟩ := Option.map_eq_some_iff.mp h.symm
      exact .inr ⟨first, second, rfl, hright, hpart.symm⟩

theorem Declaration.librarySignature?_eq_iff {left right : Declaration} :
    left.librarySignature? = right.librarySignature? ↔
      (left.isLibrary ↔ right.isLibrary) ∧
        (left.isLibrary → left.signature = right.signature) := by
  unfold librarySignature?
  by_cases hleft : left.isLibrary <;> by_cases hright : right.isLibrary <;> simp [hleft, hright]

theorem Wrapper.ofDeclaration_congr {left right : Declaration} (hname : left.name = right.name)
    (hsignature : left.signature = right.signature) :
    ofDeclaration left = ofDeclaration right := by
  unfold ofDeclaration
  rw [hname, hsignature]

namespace Catalog.AgreeOn

variable {name : String} {left right : Catalog}

theorem wrapper_eq (h : AgreeOn name left right) : left.wrapper name = right.wrapper name := by
  unfold Catalog.wrapper eligible
  rcases map_eq_map_cases h.library with ⟨hleft, hright⟩ | ⟨first, second, hleft, hright, hsame⟩
  · rw [hleft, hright]
  obtain ⟨hform, hsignature⟩ := Declaration.librarySignature?_eq_iff.mp hsame
  simp only [hleft, hright, ← hform]
  split
  next hlibrary =>
    rcases map_eq_map_cases h.builtin with ⟨hnone, hother⟩ | ⟨_, _, hsome, hother, hflag⟩
    · rw [hnone, hother]
    have hwrapper := Wrapper.ofDeclaration_congr
      ((name_of_find? hleft).trans (name_of_find? hright).symm) (hsignature hlibrary)
    simp only [hsome, hother, hflag]
    split
    · exact hwrapper
    · rfl
  · rfl

theorem wrapperText_eq (h : AgreeOn name left right) :
    left.wrapperText name = right.wrapperText name := by
  unfold wrapperText
  rw [h.wrapper_eq]

end Catalog.AgreeOn

theorem mapM_wrapperText_congr {names : List String} {left right : Catalog}
    (h : ∀ name ∈ names, left.AgreeOn name right) :
    names.mapM left.wrapperText = names.mapM right.wrapperText := by
  induction names with
  | nil => rfl
  | cons name names ih =>
      rw [List.forall_mem_cons] at h
      rw [List.mapM_cons, List.mapM_cons, h.1.wrapperText_eq, ih h.2]

theorem Settings.headerTexts_congr {settings : Settings} {left right : Catalog}
    (h : ∀ name ∈ settings.delegated, left.AgreeOn name right) :
    settings.headerTexts left = settings.headerTexts right := by
  unfold headerTexts
  rw [mapM_wrapperText_congr h]

/-! ## Declarations that make no difference -/

/-- Neither a wrapper of one of the names nor the builtin behind one goes by this name. -/
def Unread (delegated : List String) (name : String) : Prop :=
  ∀ wrapped ∈ delegated, name ≠ wrapped ∧ name ≠ builtinName wrapped

/--
A declaration of the same name in which nothing has changed that is read.  For
one of the names that is its form and the signature of the library form, and for
the builtin behind one the redirection; a name may be both.
-/
structure Declaration.Revised (delegated : List String) (before after : Declaration) :
    Prop where
  name_eq : after.name = before.name
  library : before.name ∈ delegated → after.librarySignature? = before.librarySignature?
  builtin : ∀ wrapped ∈ delegated, before.name = builtinName wrapped →
    after.isRedirected = before.isRedirected

theorem Declaration.Revised.refl (delegated : List String) (declaration : Declaration) :
    Revised delegated declaration declaration :=
  ⟨rfl, fun _ => rfl, fun _ _ _ => rfl⟩

namespace Catalog.AgreeOn

variable {delegated : List String} {name : String} {left right : Catalog}

theorem refl (name : String) (catalog : Catalog) : catalog.AgreeOn name catalog := ⟨rfl, rfl⟩

theorem symm (h : left.AgreeOn name right) : right.AgreeOn name left :=
  ⟨h.library.symm, h.builtin.symm⟩

theorem insert_unread (hname : name ∈ delegated) {declaration : Declaration}
    (h : Unread delegated declaration.name) (catalog : Catalog) :
    catalog.AgreeOn name (catalog.insert declaration) := by
  obtain ⟨hlibrary, hbuiltin⟩ := h name hname
  constructor
  · rw [find?_insert, if_neg hlibrary]
  · rw [find?_insert, if_neg hbuiltin]

theorem insert_revised (hname : name ∈ delegated) {before after : Declaration}
    (hrevised : before.Revised delegated after) (h : left.AgreeOn name right) :
    (left.insert before).AgreeOn name (right.insert after) := by
  constructor
  · simp only [find?_insert, hrevised.name_eq]
    split
    next hsame =>
      subst hsame
      simp [hrevised.library hname]
    · exact h.library
  · simp only [find?_insert, hrevised.name_eq]
    split
    next hsame => simp [hrevised.builtin name hname hsame]
    · exact h.builtin

theorem foldl_insert (hname : name ∈ delegated) (declarations : List Declaration)
    (h : left.AgreeOn name right) :
    (declarations.foldl insert left).AgreeOn name (declarations.foldl insert right) := by
  induction declarations generalizing left right with
  | nil => exact h
  | cons declaration declarations ih =>
      exact ih (h.insert_revised hname (.refl delegated declaration))

end Catalog.AgreeOn

/-! ## Edits of a text -/

/-- The line declares a name that is not read, or none at all. -/
def UnreadLine (delegated : List String) (line : List Char) : Prop :=
  ∀ declaration, Declaration.parse? line = some declaration →
    Unread delegated declaration.name

/--
One edit in the lines of a text that no wrapper of the names can notice.  A line
that declares another name, or none, is added or removed, and moved by the one
after the other, or a line of any name is revised.
-/
inductive Edit (delegated : List String) : List (List Char) → List (List Char) → Prop
  | add {front back : List (List Char)} {line : List Char}
      (hline : UnreadLine delegated line) :
      Edit delegated (front ++ back) (front ++ line :: back)
  | remove {front back : List (List Char)} {line : List Char}
      (hline : UnreadLine delegated line) :
      Edit delegated (front ++ line :: back) (front ++ back)
  | revise {front back : List (List Char)} {line revision : List Char}
      {before after : Declaration} (hbefore : Declaration.parse? line = some before)
      (hafter : Declaration.parse? revision = some after)
      (hrevised : before.Revised delegated after) :
      Edit delegated (front ++ line :: back) (front ++ revision :: back)

def Catalog.ofLines (lines : List (List Char)) : Catalog :=
  ofDeclarations (lines.filterMap Declaration.parse?)

theorem Catalog.AgreeOn.of_added {delegated : List String} {name : String}
    (hname : name ∈ delegated) {front back : List (List Char)} {line : List Char}
    (hline : UnreadLine delegated line) :
    (ofLines (front ++ back)).AgreeOn name (ofLines (front ++ line :: back)) := by
  unfold ofLines ofDeclarations
  simp only [List.filterMap_append, List.foldl_append, List.filterMap_cons]
  split
  · exact .refl name _
  next declaration hparse =>
    exact foldl_insert hname _ (insert_unread hname (hline declaration hparse) _)

theorem Edit.agreeOn {delegated : List String} {lines edited : List (List Char)}
    (h : Edit delegated lines edited) {name : String} (hname : name ∈ delegated) :
    (Catalog.ofLines lines).AgreeOn name (Catalog.ofLines edited) := by
  cases h with
  | add hline => exact .of_added hname hline
  | remove hline => exact (Catalog.AgreeOn.of_added hname hline).symm
  | revise hbefore hafter hrevised =>
      unfold Catalog.ofLines Catalog.ofDeclarations
      simp only [List.filterMap_append, List.foldl_append, List.filterMap_cons, hbefore, hafter,
        List.foldl_cons]
      exact .foldl_insert hname _ (.insert_revised hname hrevised (.refl name _))

theorem Settings.headerTexts_of_edits {settings : Settings} {lines edited : List (List Char)}
    (h : Relation.ReflTransGen (Edit settings.delegated) lines edited) :
    settings.headerTexts (.ofLines lines) = settings.headerTexts (.ofLines edited) := by
  induction h with
  | refl => rfl
  | tail _ hedit ih => exact ih.trans (headerTexts_congr fun _ hname => hedit.agreeOn hname)

/-! ## Nothing else shows -/

/--
The headers, or the fault in their place, are the same for all catalogs that
agree on the delegated names, and for all texts that come from each other by
edits that no wrapper of them notices.
-/
theorem Settings.headerTexts_depends_on_read (settings : Settings) :
    (∀ left right : Catalog, (∀ name ∈ settings.delegated, left.AgreeOn name right) →
      settings.headerTexts left = settings.headerTexts right) ∧
    ∀ text edited : List Char,
      Relation.ReflTransGen (Edit settings.delegated) (Text.lines text) (Text.lines edited) →
        settings.headerTexts (.ofText text) = settings.headerTexts (.ofText edited) :=
  ⟨fun _ _ => headerTexts_congr, fun _ _ => headerTexts_of_edits⟩

/-! ## An edited text -/

def cabsLine : List Char := "LIBBUILTIN(cabs, \"dXd\", \"fne\", complex.h, ALL_LANGUAGES)".toList

def behindCabsLine : List Char := "BUILTIN(__builtin_cabs, \"dXd\", \"Fne\")".toList

def absLine : List Char := "BUILTIN(abs, \"ii\", \"n\")".toList

def revisedCabsLine : List Char := "LIBBUILTIN(cabs, \"dXd\", \"n\", math.h, C_LANG)".toList

def revisedBehindCabsLine : List Char :=
  "LIBBUILTIN(__builtin_cabs, \"v.\", \"F\", math.h, C_LANG)".toList

def cabsSource : List Char := ['\n'].intercalate [cabsLine, behindCabsLine]

def editedCabsSource : List Char :=
  ['\n'].intercalate [absLine, revisedCabsLine, revisedBehindCabsLine]

theorem edits_cabsSource :
    Relation.ReflTransGen (Edit ["cabs"]) (Text.lines cabsSource)
      (Text.lines editedCabsSource) := by
  have hsource : Text.lines cabsSource = [cabsLine, behindCabsLine] := by decide +kernel
  have hedited : Text.lines editedCabsSource =
      [absLine, revisedCabsLine, revisedBehindCabsLine] := by decide +kernel
  have habs : Declaration.parse? absLine = some ⟨"abs", "ii", "n", .plain⟩ := by decide +kernel
  have hcabs : Declaration.parse? cabsLine =
      some ⟨"cabs", "dXd", "fne", .library "complex.h" "ALL_LANGUAGES"⟩ := by decide +kernel
  have hrevisedCabs : Declaration.parse? revisedCabsLine =
      some ⟨"cabs", "dXd", "n", .library "math.h" "C_LANG"⟩ := by decide +kernel
  have hbehind : Declaration.parse? behindCabsLine =
      some ⟨"__builtin_cabs", "dXd", "Fne", .plain⟩ := by decide +kernel
  have hrevisedBehind : Declaration.parse? revisedBehindCabsLine =
      some ⟨"__builtin_cabs", "v.", "F", .library "math.h" "C_LANG"⟩ := by decide +kernel
  have hunread : UnreadLine ["cabs"] absLine := by
    intro declaration hdeclaration
    obtain rfl := Option.some.inj (habs.symm.trans hdeclaration)
    simp [Unread, builtinName]
  rw [hsource, hedited]
  refine .tail (.tail (.single (@Edit.add _ [] [cabsLine, behindCabsLine] absLine hunread))
    (@Edit.revise _ [absLine] [behindCabsLine] _ _ _ _ hcabs hrevisedCabs ?_))
    (@Edit.revise _ [absLine, revisedCabsLine] [] _ _ _ _ hbehind hrevisedBehind ?_)
  · constructor <;> simp [Declaration.librarySignature?, Declaration.isLibrary, builtinName]
  · constructor <;> simp [Declaration.isRedirected, builtinName]

theorem ofText_cabsSource : Catalog.ofText cabsSource = cabsCatalog :=
  congrArg Catalog.ofDeclarations (by decide +kernel)

theorem headerTexts_depends_on_read_cabs :
    Relation.ReflTransGen (Edit ["cabs"]) (Text.lines cabsSource) (Text.lines editedCabsSource) ∧
      ({ delegated := ["cabs"] } : Settings).headerTexts (.ofText editedCabsSource) =
        .ok (Settings.textsOf { delegated := ["cabs"] } [cabsWrapper]) := by
  have hsource : Rendered { delegated := ["cabs"] } cabsCatalog _ :=
    rendered_cabsCatalog (by decide +kernel) rfl
  have hsame := (Settings.headerTexts_depends_on_read { delegated := ["cabs"] }).2 _ _
    edits_cabsSource
  rw [ofText_cabsSource, hsource.headerTexts_eq] at hsame
  exact ⟨edits_cabsSource, hsame.symm⟩

end BuiltinWrappers
