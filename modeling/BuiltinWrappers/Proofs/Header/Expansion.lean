import BuiltinWrappers.Proofs.Header.CompilerReading
import BuiltinWrappers.Proofs.Header.RuntimeReading

/-!
# What the prefixing macro expands to

The runtime header names its functions through a macro with one parameter, which
pastes the wrapper prefix to its argument.  A prefix that is the parameter's own
name is replaced by the argument like the parameter; every other prefix stays,
and the functions then have the names that the compiler header announces.
-/

namespace BuiltinWrappers

open Text

/-! ## Tokens -/

/-- A token of the text that takes the place of a macro. -/
inductive Token where
  | word (text : List Char)
  | number (text : List Char)
  | paste
  | symbol (character : Char)
  deriving DecidableEq, Repr

def Token.spelling : Token → List Char
  | .word text => text
  | .number text => text
  | .paste => ['#', '#']
  | .symbol character => [character]

def isNumberCharacter (character : Char) : Bool :=
  isIdentifierCharacter character || character = '.'

/-- Each token is as long as it can be, and spaces only stand between tokens. -/
def tokens : List Char → List Token
  | [] => []
  | first :: rest =>
      if isIdentifierStart first then
        .word (first :: rest.takeWhile isIdentifierCharacter) ::
          tokens (rest.dropWhile isIdentifierCharacter)
      else if first.isDigit then
        .number (first :: rest.takeWhile isNumberCharacter) ::
          tokens (rest.dropWhile isNumberCharacter)
      else if first = '#' ∧ rest.head? = some '#' then .paste :: tokens rest.tail
      else if first = ' ' then tokens rest
      else .symbol first :: tokens rest
  termination_by text => text.length
  decreasing_by
    all_goals simp only [List.length_cons, List.length_tail]
    · exact Nat.lt_succ_of_le (List.length_dropWhile_le _ _)
    · exact Nat.lt_succ_of_le (List.length_dropWhile_le _ _)
    · omega
    · omega
    · omega

theorem tokens_word_append {name : String} {rest : List Char}
    (hidentifier : isIdentifier name)
    (hrest : ∀ character, rest.head? = some character →
      isIdentifierCharacter character = false) :
    tokens (name.toList ++ rest) = .word name.toList :: tokens rest := by
  obtain ⟨first, run, hname, hfirst, hrun⟩ := isIdentifier_iff.mp hidentifier
  obtain ⟨htake, hdrop⟩ := takeWhile_dropWhile_of_head hrest
  rw [hname, List.cons_append, tokens, if_pos hfirst,
    List.takeWhile_append_of_pos hrun, List.dropWhile_append_of_pos hrun, htake, hdrop,
    List.append_nil]

theorem tokens_word {name : String} (hidentifier : isIdentifier name) :
    tokens name.toList = [.word name.toList] := by
  have hend : tokens (name.toList ++ []) = .word name.toList :: tokens [] :=
    tokens_word_append hidentifier (by simp)
  rwa [List.append_nil, tokens] at hend

/-! ## Macros with one parameter -/

structure FunctionMacro where
  name : List Char
  parameter : List Char
  body : List Token
  deriving DecidableEq, Repr

def join? (left right : Token) : Option Token :=
  match tokens (left.spelling ++ right.spelling) with
  | [token] => some token
  | _ => none

def pasteAll? : List Token → Option (List Token)
  | [] => some []
  | .paste :: _ => none
  | [token] => some [token]
  | left :: .paste :: right :: rest => do
      let joined ← join? left right
      pasteAll? (joined :: rest)
  | left :: next :: rest => do
      let rest ← pasteAll? (next :: rest)
      return left :: rest
  termination_by body => body.length

theorem pasteAll?_words {left right joined : List Char}
    (h : tokens (left ++ right) = [.word joined]) :
    pasteAll? [.word left, .paste, .word right] = some [.word joined] := by
  have hjoin : join? (.word left) (.word right) = some (.word joined) := by
    simp [join?, Token.spelling, h]
  simp [pasteAll?, hjoin]

namespace FunctionMacro

def substitute (definition : FunctionMacro) (argument : List Char) : List Token :=
  definition.body.map fun token =>
    if token = .word definition.parameter then .word argument else token

def expand? (definition : FunctionMacro) (argument : List Char) : Option (List Token) :=
  pasteAll? (definition.substitute argument)

def definitionWords : List Char := "#define ".toList

def read? (line : List Char) : Option FunctionMacro := do
  let text ← literal? definitionWords line
  let (name, text) ← upTo? '(' text
  let (parameter, text) ← upTo? ')' text
  return ⟨name, parameter, tokens text⟩

def first? (text : List Char) : Option FunctionMacro :=
  (text.splitOn '\n').findSome? read?

end FunctionMacro

/-! ## The prefixing macro -/

def prefixing (wrapperPrefix : String) : FunctionMacro where
  name := prefixingMacro.toList
  parameter := ['S']
  body := [.word wrapperPrefix.toList, .paste, .word ['S']]

theorem tokens_body {wrapperPrefix : String} (hidentifier : isIdentifier wrapperPrefix) :
    tokens (' ' :: (wrapperPrefix.toList ++ ['#', '#', 'S'])) =
      (prefixing wrapperPrefix).body := by
  have hparameter : tokens ['S'] = [.word ['S']] :=
    tokens_word (by decide : isIdentifier "S")
  have hpaste : tokens ['#', '#', 'S'] = [.paste, .word ['S']] := by
    rw [tokens]
    simp [isIdentifierStart, hparameter]
  have hword : tokens (wrapperPrefix.toList ++ ['#', '#', 'S']) =
      .word wrapperPrefix.toList :: tokens ['#', '#', 'S'] :=
    tokens_word_append hidentifier (by simp [isIdentifierCharacter])
  rw [tokens]
  simp [isIdentifierStart, hword, hpaste, prefixing]

theorem read?_macroDefinition {wrapperPrefix : String}
    (hidentifier : isIdentifier wrapperPrefix) :
    FunctionMacro.read? (macroDefinition wrapperPrefix).toList =
      some (prefixing wrapperPrefix) := by
  have hopening : macroOpening = FunctionMacro.definitionWords ++
      (prefixingMacro.toList ++ '(' :: (['S'] ++ ')' :: [' '])) := by decide
  have hname : '(' ∉ prefixingMacro.toList := by decide
  have hparameter : ')' ∉ ['S'] := by decide
  have hline : (macroDefinition wrapperPrefix).toList = FunctionMacro.definitionWords ++
      (prefixingMacro.toList ++ '(' :: (['S'] ++ ')' ::
        (' ' :: (wrapperPrefix.toList ++ ['#', '#', 'S'])))) := by
    rw [macroDefinition_toList, hopening]
    simp only [List.append_assoc, List.cons_append, List.nil_append]
  unfold FunctionMacro.read?
  rw [hline]
  simp only [Option.bind_eq_bind, Option.bind_some, literal?_append, upTo?_append _ hname,
    upTo?_append _ hparameter, tokens_body hidentifier, Option.pure_def]
  rfl

theorem first?_runtimeText {wrapperPrefix : String} (hidentifier : isIdentifier wrapperPrefix)
    (wrappers : List String) :
    FunctionMacro.first? (runtimeText wrapperPrefix wrappers).toList =
      some (prefixing wrapperPrefix) := by
  have hbanner : FunctionMacro.read? banner.toList = none := by decide
  rw [FunctionMacro.first?, runtimeText_splitOn hidentifier, List.findSome?_cons, hbanner,
    List.findSome?_cons, read?_macroDefinition hidentifier]

/-- The word in front of the paste is the prefix unless it is the parameter. -/
theorem expand?_prefixing {wrapperPrefix name : String}
    (hprefixed : isIdentifier wrapperPrefix) (hname : isIdentifier name) :
    (prefixing wrapperPrefix).expand? name.toList =
      some [.word ((if wrapperPrefix = "S" then name else wrapperPrefix) ++ name).toList] := by
  have hparameter : wrapperPrefix.toList = ['S'] ↔ wrapperPrefix = "S" := by
    have hletter : ("S").toList = ['S'] := rfl
    rw [← hletter, String.toList_inj]
  have hsubstitute : (prefixing wrapperPrefix).substitute name.toList =
      [.word (if wrapperPrefix = "S" then name else wrapperPrefix).toList, .paste,
        .word name.toList] := by
    by_cases heq : wrapperPrefix = "S" <;>
      simp [FunctionMacro.substitute, prefixing, hparameter, heq]
  have hfront : isIdentifier (if wrapperPrefix = "S" then name else wrapperPrefix) := by
    split
    · exact hname
    · exact hprefixed
  have hjoined := tokens_word (isIdentifier_append hfront
    fun _ => isIdentifierCharacter_of_mem hname)
  rw [String.toList_append] at hjoined ⊢
  rw [FunctionMacro.expand?, hsubstitute, pasteAll?_words hjoined]

/-! ## The functions that a compiler header announces -/

/--
In the headers of valid settings the macro makes one word of every delegated
name.  This is the announced prefix followed by the announced name, but for the
prefix that is called like the parameter.
-/
theorem expansion_eq_announced_iff {settings : Settings} {name : String}
    (hvalid : settings.check = .ok ()) (hname : name ∈ settings.delegated)
    (wrappers : List String) :
    ∃ definition announcedPrefix announcedNames expansion,
      FunctionMacro.first? (runtimeText settings.wrapperPrefix wrappers).toList =
        some definition ∧
      definition.name = prefixingMacro.toList ∧
      definition.expand? name.toList = some [.word expansion] ∧
      readCompiler? (compilerText settings.wrapperPrefix settings.listedNames).toList =
        some (announcedPrefix, announcedNames) ∧
      name ∈ announcedNames ∧
      (expansion = announcedPrefix.toList ++ name.toList ↔
        settings.wrapperPrefix ≠ "S" ∨ name = "S") := by
  obtain ⟨hprefixed, hlisted⟩ := Settings.check_eq_ok_iff.mp hvalid
  have hmem : name ∈ settings.listedNames := List.mem_append_right _ hname
  refine ⟨prefixing settings.wrapperPrefix, settings.wrapperPrefix, settings.listedNames, _,
    first?_runtimeText hprefixed wrappers, rfl, expand?_prefixing hprefixed (hlisted name hmem),
    readCompiler?_compilerText hprefixed hlisted, hmem, ?_⟩
  rw [← String.toList_append, String.toList_inj]
  by_cases hparameter : settings.wrapperPrefix = "S"
  · rw [if_pos hparameter, hparameter, String.append_left_inj]
    simp
  · simp [hparameter]

theorem expansion_eq_announced_default :
    ({} : Settings).check = .ok () ∧ "cabs" ∈ ({} : Settings).delegated ∧
      ∃ definition announcedPrefix announcedNames,
        FunctionMacro.first? (runtimeText ({} : Settings).wrapperPrefix []).toList =
          some definition ∧
        definition.expand? "cabs".toList =
          some [.word (announcedPrefix.toList ++ "cabs".toList)] ∧
        readCompiler? (compilerText ({} : Settings).wrapperPrefix
          ({} : Settings).listedNames).toList = some (announcedPrefix, announcedNames) ∧
        "cabs" ∈ announcedNames := by
  have hvalid : ({} : Settings).check = .ok () := by decide +kernel
  have hname : "cabs" ∈ ({} : Settings).delegated := by decide
  obtain ⟨definition, announcedPrefix, announcedNames, expansion, hfirst, -, hexpand, hread,
    hmem, hannounced⟩ := expansion_eq_announced_iff hvalid hname []
  have hexpansion := hannounced.mpr (.inl (by decide))
  rw [hexpansion] at hexpand
  exact ⟨hvalid, hname, definition, announcedPrefix, announcedNames, hfirst, hexpand, hread,
    hmem⟩

def parameterSettings : Settings where
  delegated := ["cabs"]
  wrapperPrefix := "S"

theorem expansion_ne_announced_parameter :
    parameterSettings.check = .ok () ∧ "cabs" ∈ parameterSettings.delegated ∧
      ∃ definition,
        FunctionMacro.first? (runtimeText parameterSettings.wrapperPrefix []).toList =
          some definition ∧
        definition.expand? "cabs".toList = some [.word "cabscabs".toList] ∧
        readCompiler? (compilerText parameterSettings.wrapperPrefix
          parameterSettings.listedNames).toList = some ("S", ["cabs"]) ∧
        "cabscabs".toList ≠ "S".toList ++ "cabs".toList := by
  have hvalid : parameterSettings.check = .ok () := by decide
  obtain ⟨hprefixed, hlisted⟩ := Settings.check_eq_ok_iff.mp hvalid
  have hword : (if parameterSettings.wrapperPrefix = "S" then "cabs"
      else parameterSettings.wrapperPrefix) ++ "cabs" = "cabscabs" := by decide
  have hexpand := expand?_prefixing hprefixed (by decide : isIdentifier "cabs")
  rw [hword] at hexpand
  exact ⟨hvalid, by decide, prefixing parameterSettings.wrapperPrefix,
    first?_runtimeText hprefixed [], hexpand, readCompiler?_compilerText hprefixed hlisted,
    by decide⟩

end BuiltinWrappers
