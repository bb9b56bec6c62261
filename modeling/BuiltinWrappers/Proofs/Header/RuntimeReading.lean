import BuiltinWrappers.Proofs.Text.Joined
import BuiltinWrappers.Proofs.Wrapper.Characters

/-!
# Reading a runtime header back

A runtime header is cut at its line ends: a banner, the definition of the macro
with the wrapper prefix, and five lines for each wrapper.  Of these the first
holds all parts of the wrapper, and the others follow from it.  Reading is the
inverse of writing wherever the names are identifiers.
-/

namespace BuiltinWrappers

open Text

/-! ## The lines of a wrapper -/

namespace Wrapper

def headWords : List Char := "static inline ".toList

def bodyWords : List Char := "  return ".toList

def headLine (wrapper : Wrapper) : List Char :=
  headWords ++ (wrapper.returnType.toList ++ ' ' :: prefixingMacro.toList) ++
    '(' :: wrapper.name.toList ++ ')' :: '(' :: wrapper.parameterList.toList ++ [')']

def bodyLine (wrapper : Wrapper) : List Char :=
  bodyWords ++ (builtinName wrapper.name).toList ++
    '(' :: wrapper.argumentList.toList ++ [')', ';']

def lines (wrapper : Wrapper) : List (List Char) :=
  [wrapper.headLine, ['\x7b'], wrapper.bodyLine, ['\x7d'], []]

theorem render_toList (wrapper : Wrapper) :
    wrapper.render.toList = ['\n'].intercalate wrapper.lines := by
  have hhead : ("static inline ").toList = headWords := rfl
  have hspace : (" ").toList = [' '] := rfl
  have hopen : ("(").toList = ['('] := rfl
  have hbetween : (")(").toList = [')', '('] := rfl
  have hbody : (")\n\x7b\n  return ").toList =
      [')', '\n', '\x7b', '\n'] ++ bodyWords := rfl
  have hclose : (");\n\x7d\n").toList = [')', ';', '\n', '\x7d', '\n'] := rfl
  unfold render lines headLine bodyLine
  simp only [List.intercalate_cons_cons, List.intercalate_singleton,
    String.toList_append, hhead, hspace, hopen, hbetween, hbody, hclose]
  simp only [List.append_assoc, List.cons_append, List.nil_append]

theorem headLine_eq (wrapper : Wrapper) :
    wrapper.headLine = headWords ++
      ((wrapper.returnType.toList ++ ' ' :: prefixingMacro.toList) ++ '(' ::
        (wrapper.name.toList ++ ')' ::
          (['('] ++ (wrapper.parameterList.toList ++ ')' :: [])))) := by
  simp [headLine]

theorem parameterList_toList (wrapper : Wrapper) :
    wrapper.parameterList.toList =
      [',', ' '].intercalate (wrapper.parameters.map fun parameter =>
        parameter.type.toList ++ ' ' :: parameter.name.toList) := by
  simp [parameterList, Function.comp_def]

theorem argumentList_toList (wrapper : Wrapper) :
    wrapper.argumentList.toList =
      [',', ' '].intercalate (wrapper.parameters.map fun parameter =>
        parameter.name.toList) := by
  simp [argumentList, Function.comp_def]

def isListCharacter (character : Char) : Bool :=
  isPlainCharacter character || character = ','

def isLineCharacter (character : Char) : Bool :=
  isListCharacter character || character = '(' || character = ')' || character = ';'

theorem isListCharacter_of_plain {character : Char} (h : isPlainCharacter character) :
    isListCharacter character := by
  simp [isListCharacter, h]

theorem isLineCharacter_of_list {character : Char} (h : isListCharacter character) :
    isLineCharacter character := by
  simp [isLineCharacter, h]

theorem isLineCharacter_of_plain {character : Char} (h : isPlainCharacter character) :
    isLineCharacter character :=
  isLineCharacter_of_list (isListCharacter_of_plain h)

theorem isLineCharacter_of_identifier {character : Char}
    (h : isIdentifierCharacter character) : isLineCharacter character :=
  isLineCharacter_of_plain (isPlainCharacter_of_identifier h)

namespace Plain

variable {wrapper : Wrapper} (hplain : wrapper.Plain)
include hplain

theorem parameterList : ∀ character ∈ wrapper.parameterList.toList,
    isListCharacter character := by
  rw [parameterList_toList]
  apply forall_mem_intercalate (List.all_eq_true.mp (by decide))
  intro part hpart
  obtain ⟨parameter, hparameter, rfl⟩ := List.mem_map.mp hpart
  rw [List.forall_mem_append, List.forall_mem_cons]
  refine ⟨?_, by decide, ?_⟩
  · intro character h
    exact isListCharacter_of_plain (hplain.parameterTypes parameter hparameter character h)
  · intro character h
    exact isListCharacter_of_plain (isPlainCharacter_of_identifier
      (hplain.parameterNames parameter hparameter character h))

theorem argumentList : ∀ character ∈ wrapper.argumentList.toList,
    isListCharacter character := by
  rw [argumentList_toList]
  apply forall_mem_intercalate (List.all_eq_true.mp (by decide))
  intro part hpart character h
  obtain ⟨parameter, hparameter, rfl⟩ := List.mem_map.mp hpart
  exact isListCharacter_of_plain (isPlainCharacter_of_identifier
    (hplain.parameterNames parameter hparameter character h))

theorem headLine : ∀ character ∈ wrapper.headLine, isLineCharacter character := by
  have hwords : ∀ character ∈ headWords, isLineCharacter character :=
    List.all_eq_true.mp (by decide)
  have hmacro : ∀ character ∈ prefixingMacro.toList, isLineCharacter character :=
    List.all_eq_true.mp (by decide)
  have hreturn : ∀ character ∈ wrapper.returnType.toList, isLineCharacter character :=
    fun character h => isLineCharacter_of_plain (hplain.returnType character h)
  have hname : ∀ character ∈ wrapper.name.toList, isLineCharacter character :=
    fun character h => isLineCharacter_of_identifier (hplain.name character h)
  have hlist : ∀ character ∈ wrapper.parameterList.toList, isLineCharacter character :=
    fun character h => isLineCharacter_of_list (hplain.parameterList character h)
  unfold Wrapper.headLine
  simp only [List.forall_mem_append, List.forall_mem_cons]
  exact ⟨⟨⟨⟨hwords, hreturn, by decide, hmacro⟩, by decide, hname⟩,
    by decide, by decide, hlist⟩, by decide, List.forall_mem_nil _⟩

theorem bodyLine : ∀ character ∈ wrapper.bodyLine, isLineCharacter character := by
  have hwords : ∀ character ∈ bodyWords, isLineCharacter character :=
    List.all_eq_true.mp (by decide)
  have hname : ∀ character ∈ (builtinName wrapper.name).toList,
      isLineCharacter character := by
    rw [builtinName, String.toList_append, List.forall_mem_append]
    exact ⟨List.all_eq_true.mp (by decide),
      fun character h => isLineCharacter_of_identifier (hplain.name character h)⟩
  have hlist : ∀ character ∈ wrapper.argumentList.toList, isLineCharacter character :=
    fun character h => isLineCharacter_of_list (hplain.argumentList character h)
  unfold Wrapper.bodyLine
  simp only [List.forall_mem_append, List.forall_mem_cons]
  exact ⟨⟨⟨hwords, hname⟩, by decide, hlist⟩, by decide, by decide, List.forall_mem_nil _⟩

theorem declarator :
    '(' ∉ wrapper.returnType.toList ++ ' ' :: prefixingMacro.toList ∧
      ' ' ∉ prefixingMacro.toList := by
  have hreturn : '(' ∉ wrapper.returnType.toList :=
    not_mem_of_class hplain.returnType (by decide)
  have hmacro : '(' ∉ prefixingMacro.toList := by decide
  refine ⟨?_, by decide⟩
  simp [hreturn, hmacro]

theorem lines_eq_splitOn : wrapper.render.toList.splitOn '\n' = wrapper.lines := by
  rw [render_toList]
  apply List.splitOn_intercalate
  · have hhead := not_mem_of_class hplain.headLine (by decide : isLineCharacter '\n' = false)
    have hbody := not_mem_of_class hplain.bodyLine (by decide : isLineCharacter '\n' = false)
    simp [Wrapper.lines, hhead, hbody]
  · simp [Wrapper.lines]

end Plain

end Wrapper

/-! ## Reading a wrapper -/

def readParameter? (piece : List Char) : Option Parameter := do
  let text ← literal? [' '] piece
  let (type, name) ← declarator? text
  return ⟨.ofList type, .ofList name⟩

def readParameters? (text : List Char) : Option (List Parameter) :=
  if text.isEmpty then some [] else ((' ' :: text).splitOn ',').mapM readParameter?

def readHead? (line : List Char) : Option Wrapper := do
  let text ← literal? Wrapper.headWords line
  let (declarator, text) ← upTo? '(' text
  let (returnType, macroName) ← declarator? declarator
  let (name, text) ← upTo? ')' text
  let text ← literal? ['('] text
  let (parameters, text) ← upTo? ')' text
  let parameters ← readParameters? parameters
  if macroName = prefixingMacro.toList ∧ text = [] then
    return ⟨.ofList name, .ofList returnType, parameters⟩
  else none

def readWrappers? : List (List Char) → Option (List Wrapper)
  | [] => some []
  | head :: opening :: body :: closing :: last :: lines => do
      let wrapper ← readHead? head
      let wrappers ← readWrappers? lines
      if wrapper.lines = [head, opening, body, closing, last] then
        return wrapper :: wrappers
      else none
  | _ => none

theorem readParameter?_append (parameter : Parameter)
    (hname : ∀ character ∈ parameter.name.toList, isIdentifierCharacter character) :
    readParameter? (' ' :: (parameter.type.toList ++ ' ' :: parameter.name.toList)) =
      some parameter := by
  have hspace : ' ' ∉ parameter.name.toList := not_mem_of_class hname (by decide)
  simp [readParameter?, literal?, declarator?_append _ hspace]

theorem readParameters?_parameterList {wrapper : Wrapper} (hplain : wrapper.Plain) :
    readParameters? wrapper.parameterList.toList = some wrapper.parameters := by
  have hcommas : ∀ parameter ∈ wrapper.parameters,
      ',' ∉ parameter.type.toList ++ ' ' :: parameter.name.toList := by
    intro parameter hparameter
    have htype : ',' ∉ parameter.type.toList :=
      not_mem_of_class (hplain.parameterTypes parameter hparameter) (by decide)
    have hname : ',' ∉ parameter.name.toList :=
      not_mem_of_class (hplain.parameterNames parameter hparameter) (by decide)
    simp [htype, hname]
  have hread : ∀ parameter ∈ wrapper.parameters,
      readParameter? (' ' :: (parameter.type.toList ++ ' ' :: parameter.name.toList)) =
        some (id parameter) := fun parameter hparameter =>
    readParameter?_append parameter (hplain.parameterNames parameter hparameter)
  have hall := readItems?_intercalate (by simp) hcommas hread
  rw [List.map_id] at hall
  rw [Wrapper.parameterList_toList]
  exact hall

theorem readHead?_headLine {wrapper : Wrapper} (hplain : wrapper.Plain) :
    readHead? wrapper.headLine = some wrapper := by
  obtain ⟨hopen, hspace⟩ := hplain.declarator
  have hname : ')' ∉ wrapper.name.toList := not_mem_of_class hplain.name (by decide)
  have hlist : ')' ∉ wrapper.parameterList.toList :=
    not_mem_of_class hplain.parameterList (by decide)
  unfold readHead?
  rw [wrapper.headLine_eq]
  simp only [Option.bind_eq_bind, Option.bind_some, literal?_append,
    upTo?_append _ hopen, declarator?_append _ hspace, upTo?_append _ hname,
    upTo?_append _ hlist, readParameters?_parameterList hplain, and_self, if_true,
    Option.pure_def, String.ofList_toList]

theorem readWrappers?_lines {wrappers : List Wrapper}
    (hplain : ∀ wrapper ∈ wrappers, wrapper.Plain) :
    readWrappers? (wrappers.flatMap Wrapper.lines) = some wrappers := by
  induction wrappers with
  | nil => rfl
  | cons wrapper wrappers ih =>
      have hhead := readHead?_headLine (hplain wrapper List.mem_cons_self)
      have htail := ih fun other hmem => hplain other (List.mem_cons_of_mem _ hmem)
      rw [List.flatMap_cons, Wrapper.lines]
      simp only [List.cons_append, List.nil_append, readWrappers?, hhead, htail]
      simp [Wrapper.lines]

/-! ## Reading a header -/

def macroOpening : List Char := ("#define " ++ prefixingMacro ++ "(S) ").toList

def readMacro? (line : List Char) : Option String := do
  let text ← literal? macroOpening line
  let (wrapperPrefix, text) ← upTo? '#' text
  if text = ['#', 'S'] then return .ofList wrapperPrefix else none

def readRuntime? (text : List Char) : Option (String × List Wrapper) :=
  match text.splitOn '\n' with
  | first :: second :: lines => do
      let wrapperPrefix ← readMacro? second
      let wrappers ← readWrappers? lines
      if first = banner.toList then return (wrapperPrefix, wrappers) else none
  | _ => none

theorem macroDefinition_toList (wrapperPrefix : String) :
    (macroDefinition wrapperPrefix).toList =
      macroOpening ++ (wrapperPrefix.toList ++ '#' :: ['#', 'S']) := by
  have hend : ("##S").toList = ['#', '#', 'S'] := rfl
  unfold macroDefinition macroOpening
  simp only [String.toList_append, hend, List.append_assoc]

theorem readMacro?_macroDefinition {wrapperPrefix : String}
    (hidentifier : isIdentifier wrapperPrefix) :
    readMacro? (macroDefinition wrapperPrefix).toList = some wrapperPrefix := by
  have hhash : '#' ∉ wrapperPrefix.toList :=
    not_mem_of_isIdentifier hidentifier (by decide)
  unfold readMacro?
  rw [macroDefinition_toList, literal?_append, Option.bind_eq_bind, Option.bind_some,
    upTo?_append _ hhash]
  simp

theorem runtimeText_splitOn {wrapperPrefix : String} (hidentifier : isIdentifier wrapperPrefix)
    (wrappers : List String) :
    (runtimeText wrapperPrefix wrappers).toList.splitOn '\n' =
      banner.toList :: (macroDefinition wrapperPrefix).toList ::
        wrappers.flatMap (·.toList.splitOn '\n') := by
  have hbanner : '\n' ∉ banner.toList := by decide
  have hmacro : '\n' ∉ (macroDefinition wrapperPrefix).toList := by
    have hopening : '\n' ∉ macroOpening := by decide
    have hidentifierEnd : '\n' ∉ wrapperPrefix.toList :=
      not_mem_of_isIdentifier hidentifier (by decide)
    rw [macroDefinition_toList]
    simp [hopening, hidentifierEnd]
  have hline : ("\n").toList = ['\n'] := rfl
  rw [runtimeText, String.toList_intercalate, hline,
    splitOn_intercalate_flatMap '\n' (by simp), List.flatMap_map, List.flatMap_cons,
    List.flatMap_cons, List.splitOn_eq_singleton hbanner,
    List.splitOn_eq_singleton hmacro, List.singleton_append, List.singleton_append]

theorem render_splitOn {wrappers : List Wrapper}
    (hplain : ∀ wrapper ∈ wrappers, wrapper.Plain) :
    (wrappers.map Wrapper.render).flatMap (·.toList.splitOn '\n') =
      wrappers.flatMap Wrapper.lines := by
  rw [List.flatMap_map]
  exact List.flatMap_congr fun wrapper hwrapper => (hplain wrapper hwrapper).lines_eq_splitOn

theorem readRuntime?_runtimeText {wrapperPrefix : String} {wrappers : List Wrapper}
    (hidentifier : isIdentifier wrapperPrefix)
    (hplain : ∀ wrapper ∈ wrappers, wrapper.Plain) :
    readRuntime? (runtimeText wrapperPrefix (wrappers.map Wrapper.render)).toList =
      some (wrapperPrefix, wrappers) := by
  unfold readRuntime?
  rw [runtimeText_splitOn hidentifier, render_splitOn hplain]
  simp [readMacro?_macroDefinition hidentifier, readWrappers?_lines hplain]

end BuiltinWrappers
