import BuiltinWrappers.Text.Quoted

/-!
# Settings

Which builtins are wrapped, which are listed as wrapped by hand, the prefix of
every wrapper's name, and the root under which the headers are written.  Valid
settings hold C identifiers only; the first name that is none is the fault.
-/

namespace BuiltinWrappers

/-! ## C identifiers -/

def isIdentifierStart (character : Char) : Bool :=
  character.isAlpha || character = '_'

def isIdentifierCharacter (character : Char) : Bool :=
  character.isAlphanum || character = '_'

def isIdentifier (name : String) : Bool :=
  match name.toList with
  | [] => false
  | first :: rest => isIdentifierStart first && rest.all isIdentifierCharacter

/-! ## The settings of a run -/

structure Settings where
  delegated : List String :=
    ["cabs", "cabsf", "cabsl", "cimag", "cimagf", "cimagl",
     "creal", "crealf", "creall", "conj", "conjf", "conjl"]
  rewritten : List String := []
  wrapperPrefix : String := "chpl_clang_builtin_wrapper_"
  root : String := "."
  deriving DecidableEq, Repr

inductive SettingsFault where
  | wrapperPrefix (text : String)
  | builtinName (name : String)
  | other (description : String)
  deriving DecidableEq, Repr

def SettingsFault.message : SettingsFault → String
  | .wrapperPrefix text =>
      "wrapper_prefix " ++ Text.quoted text ++ " is not a valid C identifier"
  | .builtinName name =>
      "builtin name " ++ Text.quoted name ++ " is not a valid C identifier"
  | .other description => description

namespace Settings

/-- The names listed as wrapped, those wrapped by hand first. -/
def listedNames (settings : Settings) : List String :=
  settings.rewritten ++ settings.delegated

def check (settings : Settings) : Except SettingsFault Unit :=
  if isIdentifier settings.wrapperPrefix then
    match (settings.delegated ++ settings.rewritten).find? (!isIdentifier ·) with
    | none => .ok ()
    | some name => .error (.builtinName name)
  else .error (.wrapperPrefix settings.wrapperPrefix)

theorem check_eq_ok_iff {settings : Settings} :
    settings.check = .ok () ↔
      isIdentifier settings.wrapperPrefix ∧
        ∀ name ∈ settings.listedNames, isIdentifier name := by
  unfold check listedNames
  by_cases hvalid : isIdentifier settings.wrapperPrefix
  · simp only [hvalid, if_true, true_and]
    split
    next hnone =>
      simp only [true_iff]
      intro name hname
      have := List.find?_eq_none.mp hnone name
      grind
    next name hsome =>
      have hmem := List.mem_of_find?_eq_some hsome
      have hbad := List.find?_some hsome
      simp only [reduceCtorEq, false_iff]
      grind
  · simp [hvalid]

end Settings

end BuiltinWrappers
