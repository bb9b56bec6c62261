import BuiltinWrappers.Builtin.Catalog
import BuiltinWrappers.Text.Quoted

/-!
# Eligibility for a wrapper

A name can be wrapped when its own declaration is a library one and the builtin
of the same name is declared and redirected.  The first of these conditions that
fails is the obstacle.
-/

namespace BuiltinWrappers

/-! ## Obstacles -/

inductive Obstacle where
  | missingLibrary
  | notLibrary
  | missingBuiltin (builtin : String)
  | notRedirected (builtin : String)
  | emptySignature (signature : String)
  deriving DecidableEq, Repr

def Obstacle.message : Obstacle → String
  | .missingLibrary => "no LIBBUILTIN declaration"
  | .notLibrary => "declared as a plain BUILTIN"
  | .missingBuiltin builtin => builtin ++ " is not declared"
  | .notRedirected builtin => builtin ++ " does not carry the 'F' attribute"
  | .emptySignature signature =>
      "type signature " ++ Text.quoted signature ++ " has no return type"

/-! ## The check -/

/-- The name under which the compiler offers the builtin behind a library function. -/
def builtinName (name : String) : String := "__builtin_" ++ name

namespace Catalog

def eligible (catalog : Catalog) (name : String) :
    Except Obstacle Declaration :=
  match catalog.find? name with
  | none => .error .missingLibrary
  | some library =>
      if library.isLibrary then
        match catalog.find? (builtinName name) with
        | none => .error (.missingBuiltin (builtinName name))
        | some builtin =>
            if builtin.isRedirected then .ok library
            else .error (.notRedirected (builtinName name))
      else .error .notLibrary

theorem eligible_eq_ok_iff {catalog : Catalog} {name : String}
    {library : Declaration} :
    catalog.eligible name = .ok library ↔
      catalog.find? name = some library ∧ library.isLibrary ∧
        ∃ builtin, catalog.find? (builtinName name) = some builtin ∧
          builtin.isRedirected := by
  unfold eligible
  split
  · simp_all
  next found hfound =>
    rw [hfound]
    by_cases hlibrary : found.isLibrary
    · rw [if_pos hlibrary]
      split
      · simp_all
      next builtin hbuiltin =>
        by_cases hredirected : builtin.isRedirected <;> grind
    · rw [if_neg hlibrary]
      grind

theorem eligible_eq_error_iff {catalog : Catalog} {name : String}
    {obstacle : Obstacle} :
    catalog.eligible name = .error obstacle ↔
      catalog.find? name = none ∧ obstacle = .missingLibrary ∨
      ∃ library, catalog.find? name = some library ∧
        (¬library.isLibrary ∧ obstacle = .notLibrary ∨
          library.isLibrary ∧
            (catalog.find? (builtinName name) = none ∧
                obstacle = .missingBuiltin (builtinName name) ∨
              ∃ builtin, catalog.find? (builtinName name) = some builtin ∧
                ¬builtin.isRedirected ∧
                obstacle = .notRedirected (builtinName name))) := by
  unfold eligible
  split
  next hnone =>
    simp [hnone, eq_comm (a := obstacle)]
  next library hlibrary =>
    by_cases hform : library.isLibrary
    · rw [if_pos hform]
      split
      next hnone => simp [hlibrary, hform, hnone, eq_comm (a := obstacle)]
      next builtin hbuiltin =>
        by_cases hredirected : builtin.isRedirected <;>
          simp [hlibrary, hform, hbuiltin, hredirected, eq_comm (a := obstacle)]
    · simp [hlibrary, hform, eq_comm (a := obstacle)]

end Catalog

end BuiltinWrappers
