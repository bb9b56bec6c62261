import BuiltinWrappers.Proofs.Header.RuntimeReading
import BuiltinWrappers.Proofs.Signature.Pieces
import BuiltinWrappers.Proofs.Wrapper.FromText
import Mathlib.Data.List.Nodup
import Std.Data.String.ToNat

/-!
# What a wrapper forwards

A wrapper has one parameter for each fall of the phase in its signature.  Its
text has two lists, the parameters that it declares and the arguments of the
call.  Each list can be read back, whatever the name of the wrapper holds, and
the call passes every parameter once and in the order of the declaration.
-/

namespace BuiltinWrappers

open Text

/-! ## Texts in lines -/

/-- The text is so many lines, each ended by a line feed. -/
def HasLines (count : Nat) (text : List Char) : Prop :=
  ∃ lines : List (List Char), lines.length = count ∧ (∀ line ∈ lines, '\n' ∉ line) ∧
    text = lines.flatMap (· ++ ['\n'])

theorem HasLines.count_lineFeed {count : Nat} {text : List Char} (h : HasLines count text) :
    text.count '\n' = count := by
  obtain ⟨lines, rfl, hlines, rfl⟩ := h
  induction lines with
  | nil => rfl
  | cons line lines ih =>
      rw [List.forall_mem_cons] at hlines
      have hline : line.count '\n' = 0 := List.count_eq_zero.mpr hlines.1
      have hrest := ih hlines.2
      simp [hline, hrest]

namespace Wrapper

variable {library : Declaration} {wrapper : Wrapper}

/-! ## Parameters -/

theorem parameterName_injective : Function.Injective parameterName := by
  intro first second h
  rw [parameterName, parameterName, String.append_right_inj] at h
  exact Nat.repr_injective h

theorem nodup_names_of_ofDeclaration (hbuilt : ofDeclaration library = .ok wrapper) :
    (wrapper.parameters.map Parameter.name).Nodup := by
  rw [parameter_names_of_ofDeclaration hbuilt]
  exact List.nodup_range.map parameterName_injective

theorem length_parameters_of_ofDeclaration (hbuilt : ofDeclaration library = .ok wrapper) :
    wrapper.parameters.length = Signature.falls (Signature.codePrefix library.signature) := by
  have hpieces : wrapper.parameters.length + 1 =
      (Signature.pieces (Signature.codePrefix library.signature)).length := by
    rw [← List.length_map Signature.spelling, ← Signature.types_eq_map_spelling,
      types_of_ofDeclaration hbuilt]
    simp
  rw [Signature.length_pieces] at hpieces
  split at hpieces
  · contradiction
  · omega

/-! ## Reading the two lists -/

def declaredParameters? (name : String) (text : List Char) : Option (List Parameter) := do
  let (_, text) ← upTo? '(' text
  let text ← literal? (name.toList ++ [')', '(']) text
  let (parameters, _) ← upTo? ')' text
  readParameters? parameters

def readArgument? (piece : List Char) : Option String :=
  (literal? [' '] piece).map String.ofList

def passedArguments? (name : String) (text : List Char) : Option (List String) := do
  let (front, arguments) ← lastBracketed? text
  if ("  return __builtin_" ++ name).toList <:+ front then readItems? readArgument? arguments
  else none

theorem declaredParameters?_render (hbuilt : ofDeclaration library = .ok wrapper) :
    declaredParameters? wrapper.name wrapper.render.toList = some wrapper.parameters := by
  have hplain := plain_unnamed_of_ofDeclaration hbuilt
  have hfront : '(' ∉ headWords ++
      (wrapper.returnType.toList ++ ' ' :: prefixingMacro.toList) := by
    have hwords : '(' ∉ headWords := by decide
    rw [List.mem_append, not_or]
    exact ⟨hwords, hplain.declarator.1⟩
  have hlist : ')' ∉ wrapper.parameterList.toList :=
    not_mem_of_class hplain.parameterList (by decide)
  have hread : readParameters? wrapper.parameterList.toList = some wrapper.parameters :=
    (readParameters?_parameterList hplain :)
  have hrender : wrapper.render.toList =
      (headWords ++ (wrapper.returnType.toList ++ ' ' :: prefixingMacro.toList)) ++ '(' ::
        ((wrapper.name.toList ++ [')', '(']) ++ (wrapper.parameterList.toList ++ ')' ::
          '\n' :: ['\n'].intercalate [['\x7b'], wrapper.bodyLine, ['\x7d'], []])) := by
    rw [render_toList, lines, List.intercalate_cons_cons, headLine_eq]
    simp
  rw [declaredParameters?, hrender]
  simp only [Option.bind_eq_bind, Option.bind_some, upTo?_append _ hfront, literal?_append,
    upTo?_append _ hlist, hread]

theorem readItems?_argumentList (hbuilt : ofDeclaration library = .ok wrapper) :
    readItems? readArgument? wrapper.argumentList.toList =
      some (wrapper.parameters.map Parameter.name) := by
  have hplain := plain_unnamed_of_ofDeclaration hbuilt
  rw [argumentList_toList]
  apply readItems?_intercalate
  · intro parameter hparameter
    obtain ⟨index, hindex⟩ := exists_parameterName_of_mem hbuilt hparameter
    simp [hindex, parameterName]
  · intro parameter hparameter
    exact not_mem_of_class (hplain.parameterNames parameter hparameter) (by decide)
  · intro parameter hparameter
    simp [readArgument?, literal?]

theorem passedArguments?_render (hbuilt : ofDeclaration library = .ok wrapper) :
    passedArguments? wrapper.name wrapper.render.toList =
      some (wrapper.parameters.map Parameter.name) := by
  have hplain := plain_unnamed_of_ofDeclaration hbuilt
  have hlist : '(' ∉ wrapper.argumentList.toList :=
    not_mem_of_class hplain.argumentList (by decide)
  have hend : ')' ∉ [';', '\n', '\x7d', '\n'] := by decide
  have hcall : ("  return __builtin_" ++ wrapper.name).toList =
      bodyWords ++ (builtinName wrapper.name).toList := by
    rw [builtinName, String.toList_append, String.toList_append, ← List.append_assoc]
    rfl
  have hrender : wrapper.render.toList =
      (wrapper.headLine ++ ['\n', '\x7b', '\n'] ++
        ("  return __builtin_" ++ wrapper.name).toList) ++
          '(' :: (wrapper.argumentList.toList ++ ')' :: [';', '\n', '\x7d', '\n']) := by
    rw [render_toList, hcall]
    simp [lines, bodyLine]
  rw [passedArguments?, hrender, lastBracketed?_append _ hlist hend]
  simp only [Option.bind_eq_bind, Option.bind_some, List.suffix_append, if_true,
    readItems?_argumentList hbuilt]

/-! ## Lines -/

theorem render_toList_eq_flatMap (wrapper : Wrapper) :
    wrapper.render.toList =
      [wrapper.headLine, ['\x7b'], wrapper.bodyLine, ['\x7d']].flatMap (· ++ ['\n']) := by
  rw [render_toList]
  simp [lines]

/-- The name stands in the first line and in the call, and nothing else can hold a line feed. -/
theorem count_lineFeed_lines (hbuilt : ofDeclaration library = .ok wrapper) :
    wrapper.headLine.count '\n' = wrapper.name.toList.count '\n' ∧
      wrapper.bodyLine.count '\n' = wrapper.name.toList.count '\n' := by
  have hplain := plain_unnamed_of_ofDeclaration hbuilt
  have hreturn : wrapper.returnType.toList.count '\n' = 0 :=
    List.count_eq_zero.mpr (not_mem_of_class hplain.returnType (by decide))
  have hparameters : wrapper.parameterList.toList.count '\n' = 0 :=
    List.count_eq_zero.mpr (not_mem_of_class hplain.parameterList (by decide))
  have harguments : wrapper.argumentList.toList.count '\n' = 0 :=
    List.count_eq_zero.mpr (not_mem_of_class hplain.argumentList (by decide))
  have hwords : headWords.count '\n' = 0 ∧ prefixingMacro.toList.count '\n' = 0 ∧
      bodyWords.count '\n' = 0 := by decide
  simp [headLine, bodyLine, builtinName, hreturn, hparameters, harguments, hwords]

theorem hasLines_render_iff (hbuilt : ofDeclaration library = .ok wrapper) :
    HasLines 4 wrapper.render.toList ↔ '\n' ∉ wrapper.name.toList := by
  obtain ⟨hhead, hbody⟩ := count_lineFeed_lines hbuilt
  constructor
  · intro h
    have hcount := h.count_lineFeed
    rw [render_toList_eq_flatMap] at hcount
    simp [hhead, hbody] at hcount
    exact List.count_eq_zero.mp (by omega)
  · intro hname
    rw [← List.count_eq_zero] at hname
    rw [hname, List.count_eq_zero] at hhead hbody
    refine ⟨_, rfl, ?_, wrapper.render_toList_eq_flatMap⟩
    simp [hhead, hbody]

/-! ## The whole wrapper -/

/--
The parameters are those that the signature gives, under names of their own, and
the text passes on just what it declares.
-/
structure Forwards (library : Declaration) (wrapper : Wrapper) : Prop where
  name : wrapper.name = library.name
  returnType : (Signature.types library.signature)[0]? = some wrapper.returnType
  arity : wrapper.parameters.length =
    Signature.falls (Signature.codePrefix library.signature)
  parameters : ∀ index : Nat, wrapper.parameters[index]? =
    (Signature.types library.signature)[index + 1]?.map fun type =>
      ⟨type, "arg" ++ Nat.repr index⟩
  distinct : (wrapper.parameters.map Parameter.name).Nodup
  declared : declaredParameters? library.name wrapper.render.toList = some wrapper.parameters
  passed : passedArguments? library.name wrapper.render.toList =
    some (wrapper.parameters.map Parameter.name)
  fourLines : HasLines 4 wrapper.render.toList ↔ '\n' ∉ library.name.toList

theorem forwards_of_ofDeclaration (hbuilt : ofDeclaration library = .ok wrapper) :
    Forwards library wrapper := by
  have hname := name_of_ofDeclaration hbuilt
  constructor
  · exact hname
  · rw [types_of_ofDeclaration hbuilt]
    rfl
  · exact length_parameters_of_ofDeclaration hbuilt
  · exact getElem?_parameters_of_ofDeclaration hbuilt
  · exact nodup_names_of_ofDeclaration hbuilt
  · rw [← hname]
    exact declaredParameters?_render hbuilt
  · rw [← hname]
    exact passedArguments?_render hbuilt
  · rw [← hname]
    exact hasLines_render_iff hbuilt

/--
A signature that begins with no code is the only obstacle, and the wrapper of
any other declaration forwards the parameters that its signature gives.
-/
theorem ofDeclaration_forwards (library : Declaration) :
    (∀ obstacle, ofDeclaration library = .error obstacle ↔
      ¬Catalog.BeginsWithCode library.signature ∧
        obstacle = .emptySignature library.signature) ∧
    (Catalog.BeginsWithCode library.signature ↔
      ∃ wrapper, ofDeclaration library = .ok wrapper ∧ Forwards library wrapper) := by
  have hfails (obstacle : Obstacle) : ofDeclaration library = .error obstacle ↔
      ¬Catalog.BeginsWithCode library.signature ∧
        obstacle = .emptySignature library.signature := by
    rw [ofDeclaration_eq_error_iff, Catalog.types_eq_nil_iff_not_beginsWithCode]
  refine ⟨hfails, ?_⟩
  cases hbuilt : ofDeclaration library with
  | error obstacle =>
      have hbegins := ((hfails obstacle).mp hbuilt).1
      simp [hbegins]
  | ok wrapper =>
      have hbegins : Catalog.BeginsWithCode library.signature := by
        by_contra hnot
        have herror := (hfails _).mpr ⟨hnot, rfl⟩
        rw [hbuilt] at herror
        contradiction
      exact iff_of_true hbegins ⟨wrapper, rfl, forwards_of_ofDeclaration hbuilt⟩

end Wrapper

end BuiltinWrappers
