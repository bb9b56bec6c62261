import BuiltinWrappers.Script.Arithmetic
import BuiltinWrappers.Script.Fields
import BuiltinWrappers.Script.Quoting
import BuiltinWrappers.Script.Session
import BuiltinWrappers.Script.Syntax.Scan

/-!
# Expansion

The pieces of a word are replaced by what they stand for at the time: the values
of parameters, the output of commands, and the results of arithmetic.  How items
are run is given from outside.
-/

namespace BuiltinWrappers.Script

open Text (Octets Pattern)

abbrev Runner := List Item → Act Unit

namespace Expansion

/-! ## Parameters -/

inductive Holding where
  | missing
  | one (text : Octets)
  | many (texts : List Octets) (joined : Bool)
  deriving DecidableEq, Repr

namespace Holding

def ofOption : Option Octets → Holding
  | some text => .one text
  | none => .missing

def isMissing (holding : Holding) : Bool := holding = .missing || holding = .many [] true ||
  holding = .many [] false

def isVoid (holding : Holding) : Bool :=
  match holding with
  | .missing => true
  | .one text => text.isEmpty
  | .many texts _ => texts.all List.isEmpty && texts.length ≤ 1

def map (change : Octets → Octets) : Holding → Holding
  | .missing => .one (change [])
  | .one text => .one (change text)
  | .many texts joined => .many (texts.map change) joined

end Holding

def modeLetters (modes : Modes) (dialect : Dialect) : Octets :=
  let letter (on : Bool) (letter : Char) : Octets := if on then [letter] else []
  letter modes.exportsAll 'a' ++ letter modes.errorsEnd 'e' ++ letter modes.plainPaths 'f' ++
    letter (dialect = .extended) 'h' ++ letter modes.unsetIsError 'u' ++
    letter modes.traces 'x' ++ letter (dialect = .extended) 'B' ++ letter modes.keepsFiles 'C'

def special? (shell : Shell) (name : Octets) : Option Holding :=
  match name with
  | ['@'] => some (.many shell.arguments false)
  | ['*'] => some (.many shell.arguments true)
  | ['#'] => some (.one (Text.decimalText shell.arguments.length))
  | ['?'] => some (.one (Text.decimalText shell.status))
  | ['$'] => some (.one (Text.decimalText shell.process))
  | ['-'] => some (.one (modeLetters shell.modes shell.dialect))
  | ['!'] =>
      some ((shell.background.map fun process => .one (Text.decimalText process)).getD .missing)
  | ['0'] => some (.one shell.name)
  | name =>
      if name = "RANDOM".toList ∧ shell.dialect = .extended then some (.one "17234".toList)
      else if name = "LINENO".toList then some (.one (Text.decimalText shell.line))
      else if name.all Char.isDigit then
        match shell.arguments[Text.ofDigits 10 name - 1]? with
        | some text => some (.one text)
        | none => some .missing
      else none

def listed (variableAt : Variable) (subscript : Subscript) : Holding :=
  match subscript with
  | .all joined => .many variableAt.texts joined
  | .index index => Holding.ofOption (variableAt.textAt? index)
  | .key key => Holding.ofOption (variableAt.textUnder? key)

def specialList? (shell : Shell) (name : Octets) (subscript : Option Subscript) :
    Option Holding :=
  if shell.dialect = .extended then
    match String.ofList name with
    | "FUNCNAME" =>
        if shell.callNames.isEmpty then some .missing
        else
          let names := Variable.ofList (shell.callNames ++ ["main".toList])
          some (listed names (subscript.getD (.index 0)))
    | "BASH_VERSINFO" =>
        let parts := Variable.ofList
          (["5", "2", "15", "1", "release", "x86_64-pc-linux-gnu"].map String.toList)
        some (listed parts (subscript.getD (.index 0)))
    | _ => none
  else none

def holding (shell : Shell) (name : Octets) (subscript : Option Subscript) : Holding :=
  match specialList? shell name subscript <|> special? shell name, shell.variableNamed? name with
  | some holding, _ => holding
  | none, none => .missing
  | none, some variableAt => listed variableAt (subscript.getD (.index 0))

def isKeyed (shell : Shell) (name : Octets) : Bool :=
  (shell.variableNamed? name).any fun variableAt => variableAt.keyed.isSome

def elementOf? (word : Octets) : Option (Octets × Octets) :=
  let name := word.takeWhile isNameCharacter
  match word.drop name.length with
  | '[' :: rest => if rest.getLast? = some ']' then some (name, rest.dropLast) else none
  | _ => none

/-! ## Arithmetic -/

def operandText (shell : Shell) : (fuel : Nat) → Octets → Octets
  | 0, _ => []
  | fuel + 1, word =>
      let held :=
        match elementOf? word with
        | none => holding shell word none
        | some (name, inner) =>
            if isKeyed shell name then holding shell name (some (.key inner))
            else
              match Arithmetic.result ⟨shell.dialect, operandText shell fuel⟩ inner with
              | .ok (index, _) => holding shell name (some (.index index))
              | .error _ => .missing
      match held with
      | .one text => text
      | _ => []

def deepestElement : Nat := 8

def faultText (expression : Octets) : Arithmetic.Fault → Octets
  | .malformed => "arithmetic expression: expecting primary: \"".toList ++ expression ++ ['"']
  | .badNumber text => "Illegal number: ".toList ++ text
  | .divisionByZero =>
      "arithmetic expression: division by zero: \"".toList ++ expression ++ ['"']

def calculate (expression : Octets) : Act Int := do
  let shell ← Act.shell
  let setting : Arithmetic.Setting := ⟨shell.dialect, operandText shell deepestElement⟩
  match Arithmetic.result setting expression with
  | .ok (result, bindings) =>
      bindings.reverse.forM fun (word, value) => do
        let text := Text.integerText value
        match elementOf? word with
        | none => Act.setVariable word text
        | some (name, inner) =>
            let subscript : Subscript :=
              if isKeyed shell name then .key inner
              else .index ((Arithmetic.result setting inner).toOption.map Prod.fst |>.getD 0)
            Act.changeVariable name (·.put (some subscript) text)
      return result
  | .error fault => Act.refuseExpansion (faultText expression fault)

/-! ## Changes of values -/

def separator : Act Octets := do
  return (← Act.valueOr "IFS" [' ']).take 1

def atoms (quoted : Bool) (held : Holding) : Act (List Atom) := do
  match held with
  | .missing => return Atom.ofText quoted true []
  | .one text => return Atom.ofText quoted true text
  | .many texts joined =>
      if quoted ∧ joined then
        return Atom.ofText true true (List.intercalate (← separator) texts)
      else return List.intercalate [.boundary] (texts.map (Atom.ofText quoted true))

def firstMatch? (pattern : Pattern) (scope : Scope) (text : Octets) :
    Option (Octets × Octets × Octets) :=
  let candidates := (List.range (text.length + 1)).flatMap fun start =>
    (List.range (text.length + 1 - start)).reverse.map fun length =>
      (text.take start, (text.drop start).take length, text.drop (start + length))
  candidates.find? fun (front, middle, rear) =>
    pattern.matchesText middle &&
      match scope with
      | .front => front.isEmpty
      | .rear => rear.isEmpty
      | _ => true

def replacementText (replacement : List Atom) (found : Octets) : Octets :=
  replacement.flatMap fun atom =>
    match atom with
    | .octet '&' false _ => found
    | .octet character _ _ => [character]
    | _ => []

def exchanged (pattern : Pattern) (scope : Scope) (replacement : List Atom) :
    (fuel : Nat) → Octets → Octets
  | 0, text => text
  | fuel + 1, text =>
      if text.isEmpty then []
      else
        match firstMatch? pattern scope text with
        | none => text
        | some (front, found, rear) =>
            let changed := front ++ replacementText replacement found
            match scope, found, rear with
            | .everywhere, [], character :: rear =>
                changed ++ character :: exchanged pattern scope replacement fuel rear
            | .everywhere, _, rear => changed ++ exchanged pattern scope replacement fuel rear
            | _, _, rear => changed ++ rear

def sliced {α : Type} (items : List α) (offset : Int) (length : Option Int) : List α :=
  let size : Int := items.length
  let start := if offset < 0 then size + offset else offset
  if start < 0 then []
  else
    let rest := items.drop start.toNat
    match length with
    | none => rest
    | some length =>
        if length < 0 then rest.take (rest.length + length).toNat else rest.take length.toNat

def inCase (target : LetterCase) (everywhere : Bool) (pattern : Pattern) (text : Octets) :
    Octets :=
  let change (letter : Char) : Char :=
    if !pattern.isEmpty ∧ !pattern.matchesText [letter] then letter
    else
      match target with
      | .upper => letter.toUpper
      | .lower => letter.toLower
  match everywhere, text with
  | true, text => text.map change
  | false, [] => []
  | false, first :: rest => change first :: rest

/-! ## Pieces -/

abbrev Expander := Word → Act (List Atom)

def subscriptOf (name text : Octets) : Act Subscript := do
  if text = ['@'] then return .all false
  else if text = ['*'] then return .all true
  else if isKeyed (← Act.shell) name then return .key text
  else return .index (← calculate text)

def subscript? (expand : Expander) (name : Octets) : Option Word → Act (Option Subscript)
  | none => return none
  | some word => do return some (← subscriptOf name (Atom.text (← expand word)))

def requireSet (name : Octets) (held : Holding) : Act Unit := do
  if held = .missing ∧ (← Act.shell).modes.unsetIsError then
    match ← Act.dialect with
    | .plain => Act.refuse 2 (name ++ ": parameter not set".toList)
    | .extended => Act.refuse 1 (name ++ ": unbound variable".toList)

def inLetterCase (letterCase : Option LetterCase) (text : Octets) : Octets :=
  match letterCase with
  | some target => inCase target true [] text
  | none => text

def assignAt (name : Octets) (subscript : Option Subscript) (text : Octets) : Act Unit := do
  let variableAt := ((← Act.variableNamed? name).getD {} : Variable)
  let text ←
    if variableAt.isInteger then do
      let value ← calculate text
      pure (Text.integerText value)
    else pure (inLetterCase variableAt.letterCase text)
  Act.changeVariable name (·.put subscript text)

def fallback (expand : Expander) (name : Octets) (subscript : Option Subscript)
    (held : Holding) (kind : Fallback) (emptyToo : Bool) (word : Word) (quoted : Bool) :
    Act (List Atom) := do
  let isSet := if emptyToo then !held.isVoid else !held.isMissing
  let substitute : Act (List Atom) := do
    let found := (← expand word).map Atom.freshen
    return if found.isEmpty ∧ quoted then [.void] else found
  match kind, isSet with
  | .replace, true => substitute
  | .replace, false => return Atom.ofText quoted true []
  | _, true => atoms quoted held
  | .use, false => substitute
  | .assign, false =>
      let text := Atom.text (← expand word)
      if (special? (← Act.shell) name).isSome then
        Act.refuseExpansion (name ++ ": bad variable name".toList)
      assignAt name subscript text
      return Atom.ofText quoted true text
  | .fail, false =>
      let text := Atom.text (← expand word)
      let status := if (← Act.dialect) = .plain then 2 else 1
      let reason :=
        if !word.isEmpty then text
        else if emptyToo then "parameter null or not set".toList
        else "parameter not set".toList
      Act.refuse status (name ++ ": ".toList ++ reason)

def slice (expand : Expander) (name : Octets) (held : Holding) (offset : Word)
    (length : Option Word) : Act Holding := do
  let offset ← calculate (Atom.text (← expand offset))
  let length ← length.mapM fun word => do calculate (Atom.text (← expand word))
  let shell ← Act.shell
  match held with
  | .missing => return .one []
  | .one text => return .one (sliced text offset length)
  | .many texts joined =>
      match shell.variableNamed? name with
      | some variableAt =>
          let start := if offset < 0 then offset + variableAt.nextIndex else offset
          let reached := variableAt.values.filter fun entry => start ≤ entry.1
          let texts := if variableAt.keyed.isSome then texts else reached.map Prod.snd
          let start := if variableAt.keyed.isSome then offset else if start < 0 then -1 else 0
          return .many (sliced texts start length) joined
      | none => return .many (sliced (shell.name :: texts) offset length) joined

def transformed (operator : Char) (text : Octets) : Octets :=
  match operator with
  | 'Q' => Quoting.single text
  | 'U' => inCase .upper true [] text
  | 'u' => inCase .upper false [] text
  | 'L' => inCase .lower true [] text
  | 'E' => ((Parser.dollarQuoted? (text.length + 2) (text ++ ['\''])).map Prod.fst).getD text
  | _ => text

def declarationText (name : Octets) (variableAt : Variable) : Octets :=
  let letters := variableAt.attributes
  let front := if letters.isEmpty then [] else "declare -".toList ++ letters ++ [' ']
  let isMany := variableAt.isList || variableAt.keyed.isSome
  if isMany then
    let pairs := variableAt.entries.map fun (key, text) =>
      '[' :: Quoting.key key ++ "]=".toList ++ Quoting.double text
    let gap := if variableAt.keyed.isSome then [' '] else []
    front ++ name ++ "=(".toList ++ [' '].intercalate pairs ++ gap ++ [')']
  else front ++ name ++ '=' :: Quoting.single (variableAt.value?.getD [])

def described? (shell : Shell) (name : Octets) (operator : Char) (joined : Bool) :
    Option Holding :=
  match operator, shell.variableNamed? name with
  | 'a', some variableAt => some (.one variableAt.attributes)
  | 'a', none => some (.one [])
  | 'A', some variableAt => some (.one (declarationText name variableAt))
  | 'K', some variableAt =>
      some (.one ([' '].intercalate (variableAt.entries.map fun (key, text) =>
        Quoting.key key ++ ' ' :: Quoting.double text)))
  | 'k', some variableAt =>
      some (.many (variableAt.entries.flatMap fun (key, text) => [key, text]) joined)
  | _, _ => none

def patternOf (expand : Expander) (word : Word) : Act Pattern := do
  let glyphs := Atom.glyphs (← expand word)
  match ← Act.dialect with
  | .plain => return Pattern.ofGlyphs glyphs
  | .extended => return Pattern.ofGroupedGlyphs glyphs

def aimOfText (text : Octets) : Act (Octets × Option Subscript) := do
  match elementOf? text with
  | some (name, inner) => return (name, some (← subscriptOf name inner))
  | none => return (text, none)

def parameter (expand : Expander) (quoted : Bool) :
    Change → Octets → Option Subscript → Act (List Atom)
  | .value, name, subscript => do
      let held := holding (← Act.shell) name subscript
      requireSet name held
      atoms quoted held
  | .length, name, subscript => do
      let held := holding (← Act.shell) name subscript
      requireSet name held
      let dialect ← Act.dialect
      let size :=
        match held with
        | .missing => 0
        | .one text => text.length
        | .many texts _ =>
            if dialect = .plain then (List.intercalate [' '] texts).length else texts.length
      return Atom.ofText quoted true (Text.decimalText size)
  | .fallback kind emptyToo word, name, subscript => do
      let held := holding (← Act.shell) name subscript
      fallback expand name subscript held kind emptyToo word quoted
  | .trim rear longest word, name, subscript => do
      let held := holding (← Act.shell) name subscript
      requireSet name held
      let pattern ← patternOf expand word
      let cut := if rear then pattern.dropEnd longest else pattern.dropFront longest
      atoms quoted (held.map cut)
  | .substitute scope word replacement, name, subscript => do
      let held := holding (← Act.shell) name subscript
      requireSet name held
      let pattern ← patternOf expand word
      let replacement ← expand replacement
      atoms quoted
        (held.map fun text => exchanged pattern scope replacement (text.length + 1) text)
  | .slice offset length, name, subscript => do
      let held := holding (← Act.shell) name subscript
      requireSet name held
      atoms quoted (← slice expand name held offset length)
  | .letters target everywhere word, name, subscript => do
      let held := holding (← Act.shell) name subscript
      requireSet name held
      let pattern ← patternOf expand word
      atoms quoted (held.map (inCase target everywhere pattern))
  | .transformed operator, name, subscript => do
      let shell ← Act.shell
      let joined :=
        match subscript with
        | some (.all joined) => joined
        | _ => false
      match described? shell name operator joined, holding shell name subscript with
      | some told, _ => atoms quoted told
      | none, .missing => atoms quoted .missing
      | none, held => atoms quoted (held.map (transformed operator))
  | .names joined, name, _ => do
      let names := (((← Act.shell).bindings.map Prod.fst).filter name.isPrefixOf).mergeSort
        byOctets
      atoms quoted (.many names joined)
  | .indirect change, name, subscript => do
      let shell ← Act.shell
      let refersTo := (shell.bindings.lookup name).bind Variable.refersTo
      match subscript, shell.variableNamed? name, holding shell name subscript, refersTo with
      | some (.all joined), some variableAt, _, _ =>
          atoms quoted (.many (variableAt.entries.map Prod.fst) joined)
      | some (.all joined), none, _, _ => atoms quoted (.many [] joined)
      | none, _, _, some aim => atoms quoted (.one aim)
      | _, _, .one text, _ =>
          let (name, subscript) ← aimOfText text
          parameter expand quoted change name subscript
      | _, _, _, _ => atoms quoted .missing

def withoutLineEnds (text : Octets) : Octets := (text.reverse.dropWhile (· = '\n')).reverse

def substitution (run : Runner) (body : List Item) : Act Octets := do
  let (text, status) ← Act.collected do
    Act.changeShell fun shell =>
      { shell with
        tested := false
        traps := []
        modes := { shell.modes with
          errorsEnd := shell.modes.errorsEnd && shell.dialect = .plain } }
    run body
  Act.changeShell fun shell => { shell with substitutionStatus := status }
  return withoutLineEnds (text.filter (· ≠ '\x00'))

def highestSource : Nat := 63

def outputPath (run : Runner) (body : List Item) : Act Octets := do
  let (text, _) ← Act.collected (run body)
  let taken := (← Act.shell).descriptors.map Prod.fst
  let free := (List.range (highestSource + 1)).reverse.filter fun number =>
    2 < number && !taken.contains number
  let descriptor := free.headD highestSource
  Act.setDescriptor descriptor (some (← Act.addFile (.source text)))
  return Act.descriptorPath descriptor

def piece (run : Runner) (expand : Expander) : Piece → Act (List Atom)
  | .text octets quoted => return Atom.ofText quoted false octets
  | .substitution body quoted =>
      return Atom.ofText quoted true (← substitution run body)
  | .output body => return Atom.ofText true true (← outputPath run body)
  | .arithmetic expression quoted => do
      let value ← calculate (Atom.text (← expand expression))
      return Atom.ofText quoted true (Text.integerText value)
  | .parameter name subscript change quoted => do
      parameter expand quoted change name (← subscript? expand name subscript)

def wordWithin (run : Runner) : (fuel : Nat) → Expander
  | 0, _ => throw .exhausted
  | fuel + 1, word => do
      let parts ← word.mapM (piece run (wordWithin run fuel))
      return parts.flatten

def deepestWord : Nat := 60

/-! ## Tildes -/

def homeOf? (shell : Shell) (user : Octets) : Option Octets :=
  if user.isEmpty then (shell.bindings.lookup "HOME".toList).bind Variable.value?
  else if user = "root".toList then some "/root".toList
  else none

def tildeText (shell : Shell) (goesOn : Bool) (stops : List Char) (text : Octets) : Word :=
  match text with
  | '~' :: rest =>
      let user := rest.takeWhile fun character => !stops.contains character
      let after := rest.drop user.length
      match if after.isEmpty ∧ goesOn then none else homeOf? shell user with
      | some home => [.text home true, .text after false]
      | none => [.text text false]
  | text => [.text text false]

def tilde (shell : Shell) (assigned : Bool) (word : Word) : Word :=
  match word with
  | .text text false :: rest =>
      if assigned then
        let parts := text.splitOn ':'
        let last := parts.length - 1
        let expanded := parts.zipIdx.map fun (part, index) =>
          tildeText shell (index = last && !rest.isEmpty) ['/'] part
        List.intercalate [.text [':'] false] expanded ++ rest
      else tildeText shell (!rest.isEmpty) ['/'] text ++ rest
  | word => word

/-! ## Words -/

def expand (run : Runner) (assigned : Bool) (word : Word) : Act (List Atom) := do
  wordWithin run deepestWord (tilde (← Act.shell) assigned word)

def text (run : Runner) (word : Word) : Act Octets := do
  return Atom.text (← expand run false word)

def assignedText (run : Runner) (word : Word) : Act Octets := do
  return Atom.text (← expand run true word)

def glyphs (run : Runner) (word : Word) : Act (List Text.Glyph) := do
  return Atom.glyphs (← expand run false word)

def pattern (run : Runner) (word : Word) : Act Pattern :=
  patternOf (expand run false) word

def defaultSeparators : Octets := [' ', '\t', '\n']

def paths (field : Field) : Act (List Octets) := do
  let shell ← Act.shell
  if shell.modes.plainPaths then return [field.text]
  else
    let host ← Act.host
    let style : PathStyle :=
      { dialect := shell.dialect
        hidden := shell.modes.matchesHidden
        deep := shell.modes.matchesDeep }
    match matchingPaths host.tree style host.workingDirectory field with
    | [] =>
        return if shell.modes.dropsUnmatched ∧ style.hasPattern field then [] else [field.text]
    | paths => return paths

def fields (run : Runner) (words : List Word) : Act (List Octets) := do
  let found ← words.mapM fun word => do
    let atoms ← expand run false word
    let separators ← Act.valueOr "IFS" defaultSeparators
    let found ← (fieldsOf separators atoms).mapM paths
    return found.flatten
  return found.flatten

/-! ## Assignments -/

def putValues (run : Runner) (name : Octets) :
    List (Option Word × Word) → (next : Nat) → Act Unit
  | [], _ => return
  | (some inner, value) :: values, next => do
      let key := Atom.text (← expand run false inner)
      let text ← assignedText run value
      match ← subscriptOf name key with
      | .index index =>
          assignAt name (some (.index index)) text
          putValues run name values (index.toNat + 1)
      | subscript =>
          assignAt name (some subscript) text
          putValues run name values next
  | (none, value) :: values, next => do
      let texts ← fields run [value]
      texts.zipIdx.forM fun (text, index) => assignAt name (some (.index (next + index : Nat))) text
      putValues run name values (next + texts.length)

def putPairs (name : Octets) : List Octets → Act Unit
  | key :: text :: rest => do
      assignAt name (some (.key key)) text
      putPairs name rest
  | [key] => assignAt name (some (.key key)) []
  | [] => return

def assign (run : Runner) : Assignment → Act Unit
  | .one name inner appending value => do
      let text ← assignedText run value
      let subscript ← subscript? (wordWithin run deepestWord) name inner
      let variableAt := ((← Act.variableNamed? name).getD {} : Variable)
      let before : Octets :=
        match appending, holding (← Act.shell) name subscript with
        | true, .one text => text
        | _, _ => []
      if variableAt.isInteger ∧ appending then
        assignAt name subscript ('(' :: before ++ ")+(".toList ++ text ++ [')'])
      else assignAt name subscript (before ++ text)
  | .list name appending values => do
      let before := ((← Act.variableNamed? name).getD {} : Variable)
      if before.readOnly then Act.refuseReadOnly name
      if before.keyed.isSome ∧ values.all fun value => value.1.isNone then
        let texts ← fields run (values.map Prod.snd)
        if !appending then Act.changeVariable name (·.removeAt (.all false))
        putPairs name texts
      else
        let plain := values.all fun value => value.1.isNone
        let texts ← if plain then fields run (values.map Prod.snd) else pure []
        Act.changeVariable name fun variableAt =>
          let kept := if appending then variableAt else variableAt.removeAt (.all false)
          { kept with isList := true }
        if plain ∧ !before.isInteger ∧ before.letterCase.isNone then
          Act.changeVariable name fun variableAt =>
            let start := variableAt.nextIndex
            let added := texts.zipIdx.map fun (text, index) => (start + index, text)
            { variableAt with values := variableAt.values ++ added }
        else
          let start := if appending then before.nextIndex else 0
          putValues run name values start

end Expansion

end BuiltinWrappers.Script
