import BuiltinWrappers.Script.Syntax.Braces
import BuiltinWrappers.Script.Syntax.Words

/-!
# Reading commands

A script is read line by line, and each line as far as the commands on it reach.
Items end at a semicolon, an ampersand or a line end, and a list of them at a
word or sign that closes the command around it.
-/

namespace BuiltinWrappers.Script

open Text (Octets)

namespace Parser

/-! ## What closes a list of items -/

def closingWords : List String := ["then", "do", "done", "fi", "else", "elif", "esac", "\x7d"]

def isClosing (text : Octets) : Bool :=
  text.isEmpty || text.head? = some ')' || [';', ';'].isPrefixOf text ||
    [';', '&'].isPrefixOf text || closingWords.contains (String.ofList (leadingRun text))

def isLineEnd (text : Octets) : Bool := text.head?.all (· = '\n')

def isCommandEnd (text : Octets) : Bool :=
  text.head?.all fun character => ['\n', ';', '&', '|', ')'].contains character

def acceptWord (expected : String) : Parser Bool := do
  let text ← get
  if leadingRun text = expected.toList then
    set (text.drop expected.length)
    return true
  else return false

def expectWord (expected : String) : Parser Unit := do
  modify skipLines
  if !(← acceptWord expected) then fail

/-! ## Redirections -/

def openings (dialect : Dialect) : List (String × Opening) :=
  (if dialect = .extended then [("<<<", .line)] else []) ++
    [("<&", .duplicate), ("<>", .readWrite), ("<", .read), (">>", .append),
     (">&", .duplicate), (">|", .write true), (">", .write false)]

def opening? (dialect : Dialect) (text : Octets) : Option (Opening × Octets) :=
  (openings dialect).findSome? fun (sign, opening) =>
    if sign.toList.isPrefixOf text then some (opening, text.drop sign.length) else none

def defaultDescriptor (text : Octets) : Nat := if text.head? = some '<' then 0 else 1

def target (dialect : Dialect) (script : Parser (List Item)) : Parser Word := do
  modify skipBlanks
  let word ← word dialect script
  if word.isEmpty then fail
  return word

def document (dialect : Dialect) (script : Parser (List Item)) (descriptor : Nat) :
    Parser Redirection := do
  let dropTabs ← accept ['-']
  let word ← target dialect script
  let delimiter := (Word.text? word).getD []
  let body ← takeDocument dropTabs delimiter
  let content ←
    if Word.hasQuoted word then pure (Word.quotedText body)
    else onText body (pieces dialect script (4 * body.length + 8) .document)
  return .mk (some descriptor) .document content

def redirection? (dialect : Dialect) (script : Parser (List Item)) :
    Parser (Option Redirection) := do
  let text ← get
  let digits := text.takeWhile Char.isDigit
  let rest := text.dropWhile Char.isDigit
  let descriptor := Text.ofDigits 10 digits
  let given := if digits.isEmpty then none else some descriptor
  if startsOutput dialect .blanks rest then return none
  else if dialect = .extended ∧ ['&', '>'].isPrefixOf text then
    set (text.drop 2)
    let appending ← accept ['>']
    return some (.mk none (.both appending) (← target dialect script))
  else if ['<', '<'].isPrefixOf rest ∧ ¬(dialect = .extended ∧ ['<', '<', '<'].isPrefixOf rest)
  then
    set (rest.drop 2)
    return some (← document dialect script (given.getD 0))
  else
    match opening? dialect rest with
    | none => return none
    | some (opening, after) =>
        set after
        let descriptor := given.getD (defaultDescriptor rest)
        return some (.mk (some descriptor) opening (← target dialect script))

def redirections (dialect : Dialect) (script : Parser (List Item)) :
    Parser (List Redirection) :=
  many do
    modify skipComment
    redirection? dialect script

/-! ## Simple commands -/

def listValues (dialect : Dialect) (script : Parser (List Item)) :
    Parser (List (Option Word × Word)) := do
  let values ← many do
    modify skipLines
    let text ← get
    let subscript? ← if text.head? = some '[' then subscript? dialect script text.length
      else pure none
    if subscript?.isSome ∧ (← accept ['=']) then
      return some [(subscript?, ← word dialect script)]
    else
      set text
      let value ← word dialect script
      return if value.isEmpty then none
        else some ((Word.alternatives value).map fun word => (none, word))
  modify skipLines
  expect [')']
  return values.flatten

def assignment? (dialect : Dialect) (script : Parser (List Item)) :
    Parser (Option Assignment) := do
  let text ← get
  let name := text.takeWhile isNameCharacter
  if !isName name then return none
  set (text.drop name.length)
  let subscript ← subscript? dialect script (4 * text.length)
  let appending := dialect = .extended && ['+', '='].isPrefixOf (← get)
  if appending then modify List.tail
  if !(← accept ['=']) then
    set text
    return none
  else if dialect = .extended ∧ subscript.isNone ∧ (← get).head? = some '(' then
    modify List.tail
    return some (.list name appending (← listValues dialect script))
  else
    return some (.one name subscript appending (← word dialect script))

inductive Part where
  | assignment (assignment : Assignment)
  | declared (name : Octets) (assignment : Assignment)
  | words (words : List Word)
  | redirection (redirection : Redirection)

def declared? (dialect : Dialect) (script : Parser (List Item)) : Parser (Option Part) := do
  let text ← get
  let name := text.takeWhile isNameCharacter
  let rest := text.drop name.length
  if dialect = .extended ∧ isName name ∧
      (['=', '('].isPrefixOf rest ∨ ['+', '=', '('].isPrefixOf rest) then
    match ← assignment? dialect script with
    | some assignment => return some (.declared name assignment)
    | none => return none
  else return none

def part? (dialect : Dialect) (script : Parser (List Item)) (inFront : Bool) :
    Parser (Option Part) := do
  modify skipComment
  if let some redirection ← redirection? dialect script then
    return some (.redirection redirection)
  else if isCommandEnd (← get) then return none
  else
    if inFront then
      if let some assignment ← assignment? dialect script then
        return some (.assignment assignment)
    else
      if let some part ← declared? dialect script then return some part
    let word ← word dialect script
    if word.isEmpty then fail
    let words := if dialect = .extended then Word.alternatives word else [word]
    return some (.words words)

def parts (dialect : Dialect) (script : Parser (List Item)) :
    (fuel : Nat) → (inFront : Bool) → Parser (List Part)
  | 0, _ => throw .tooDeep
  | fuel + 1, inFront => do
      match ← part? dialect script inFront with
      | none => return []
      | some part =>
          let inFront :=
            match part with
            | .words _ => false
            | _ => inFront
          return part :: (← parts dialect script fuel inFront)

def simpleCommand (dialect : Dialect) (script : Parser (List Item)) (lines : Nat) :
    Parser Command := do
  let text ← get
  let line := lines + 1 - text.count '\n'
  let parts ← parts dialect script (text.length + 1) true
  if parts.isEmpty then fail
  let assignments := parts.filterMap fun part =>
    match part with
    | .assignment assignment => some assignment
    | _ => none
  let words := parts.flatMap fun part =>
    match part with
    | .words words => words
    | .declared name _ => [[.text name false]]
    | _ => []
  let redirections := parts.filterMap fun part =>
    match part with
    | .redirection redirection => some redirection
    | _ => none
  let command : Command := .simple line assignments words redirections
  let declared := parts.filterMap fun part =>
    match part with
    | .declared _ assignment => some assignment
    | _ => none
  let makesReadOnly := words.head?.bind Word.text? = some "readonly".toList
  if declared.isEmpty then return command
  else if makesReadOnly then
    return .group [.ofCommand (.simple line declared [] []), .ofCommand command]
  else return .group [.ofCommand command, .ofCommand (.simple line declared [] [])]

/-! ## Conditions between double brackets -/

def binaryOperators : List String :=
  ["==", "=", "!=", "=~", "<", ">", "-eq", "-ne", "-lt", "-le", "-gt", "-ge", "-nt", "-ot",
   "-ef"]

def binaryOperator? : Parser (Option Octets) := do
  modify skipBlanks
  let text ← get
  let run := text.takeWhile fun character => !([' ', '\t', '\n'].contains character)
  if binaryOperators.contains (String.ofList run) then
    set (text.drop run.length)
    return some run
  else return none

def operand (dialect : Dialect) (script : Parser (List Item)) (enclosure : Enclosure) :
    Parser Word := do
  modify skipLines
  let word ← pieces dialect script (4 * (← get).length + 8) enclosure
  if word.isEmpty then fail
  return word

mutual

def condition (dialect : Dialect) (script : Parser (List Item)) :
    (fuel : Nat) → Parser Condition
  | 0 => throw .tooDeep
  | fuel + 1 => do
      let first ← conjunction dialect script fuel
      modify skipLines
      if ← accept ['|', '|'] then
        return .either first (← condition dialect script fuel)
      else return first

def conjunction (dialect : Dialect) (script : Parser (List Item)) :
    (fuel : Nat) → Parser Condition
  | 0 => throw .tooDeep
  | fuel + 1 => do
      let first ← primary dialect script fuel
      modify skipLines
      if ← accept ['&', '&'] then
        return .both first (← conjunction dialect script fuel)
      else return first

def primary (dialect : Dialect) (script : Parser (List Item)) :
    (fuel : Nat) → Parser Condition
  | 0 => throw .tooDeep
  | fuel + 1 => do
      modify skipLines
      if ← acceptWord "!" then return .negation (← primary dialect script fuel)
      else if ← accept ['('] then
        let inner ← condition dialect script fuel
        modify skipLines
        expect [')']
        return inner
      else
        let first ← operand dialect script .blanks
        match ← binaryOperator? with
        | some operator =>
            let enclosure : Enclosure :=
              if operator = "=~".toList then .expression else .blanks
            return .binary first operator (← operand dialect script enclosure)
        | none =>
            match Word.text? first, Word.hasQuoted first with
            | some ['-', letter], false =>
                let text := skipLines (← get)
                if text.take 2 = [']', ']'] ∨ text.take 2 = ['&', '&'] ∨
                    text.take 2 = ['|', '|'] then
                  return .word first
                else return .unary ['-', letter] (← operand dialect script .blanks)
            | _, _ => return .word first

end

/-! ## Compound commands -/

def body (script : Parser (List Item)) : Parser (List Item) := do
  let items ← script
  if items.isEmpty then fail
  return items

def loopBody (script : Parser (List Item)) : Parser (List Item) := do
  expectWord "do"
  let items ← body script
  expectWord "done"
  return items

def otherwise (script : Parser (List Item)) : (fuel : Nat) → Parser (List Item)
  | 0 => throw .tooDeep
  | fuel + 1 => do
      modify skipLines
      if ← acceptWord "fi" then return []
      else if ← acceptWord "else" then
        let items ← body script
        expectWord "fi"
        return items
      else
        expectWord "elif"
        let condition ← body script
        expectWord "then"
        let items ← body script
        return [.ofCommand (.conditional condition items (← otherwise script fuel))]

def conditional (script : Parser (List Item)) : Parser Command := do
  let condition ← body script
  expectWord "then"
  let items ← body script
  return .conditional condition items (← otherwise script ((← get).length + 1))

def loopWords (dialect : Dialect) (script : Parser (List Item)) : Parser (List Word) := do
  let words ← many do
    modify skipComment
    if isLineEnd (← get) ∨ (← get).head? = some ';' then return none
    else
      let word ← word dialect script
      if word.isEmpty then fail
      return some word
  return if dialect = .extended then words.flatMap Word.alternatives else words

def skipSeparator : Parser Unit := do
  modify skipLines
  let _ ← accept [';']
  modify skipLines

def calculated (dialect : Dialect) (script : Parser (List Item)) : Parser Word := do
  match calculation? 0 (← get) with
  | none => fail
  | some (body, rest) =>
      set rest
      onText body (pieces dialect script (4 * body.length + 8) .document)

def counting (dialect : Dialect) (script : Parser (List Item)) : Parser Command := do
  match calculation? 0 (← get) with
  | none => fail
  | some (inner, rest) =>
      match inner.splitOn ';' with
      | [start, condition, step] =>
          set rest
          let expression (text : Octets) : Parser Word :=
            onText text (pieces dialect script (4 * text.length + 8) .document)
          let start ← expression start
          let condition ← expression condition
          let step ← expression step
          skipSeparator
          return .counting start condition step (← loopBody script)
      | _ => fail

def eachLoop (dialect : Dialect) (script : Parser (List Item)) : Parser Command := do
  modify skipBlanks
  if dialect = .extended ∧ (← accept ['(', '(']) then counting dialect script
  else
    let text ← get
    let name := leadingRun text
    if !isName name then fail
    set (text.drop name.length)
    modify skipLines
    if ← acceptWord "in" then
      let words ← loopWords dialect script
      skipSeparator
      return .each name (some words) (← loopBody script)
    else
      skipSeparator
      return .each name none (← loopBody script)

def armPatterns (dialect : Dialect) (script : Parser (List Item)) :
    (fuel : Nat) → Parser (List Word)
  | 0 => throw .tooDeep
  | fuel + 1 => do
      modify skipBlanks
      let pattern ← word dialect script
      if pattern.isEmpty then fail
      modify skipBlanks
      if ← accept [')'] then return [pattern]
      else
        expect ['|']
        return pattern :: (← armPatterns dialect script fuel)

def armEnd : Parser ArmEnd := do
  modify skipLines
  if ← accept [';', ';', '&'] then return .tryNext
  else if ← accept [';', ';'] then return .leave
  else if ← accept [';', '&'] then return .runNext
  else return .leave

def arm? (dialect : Dialect) (script : Parser (List Item)) : Parser (Option Arm) := do
  modify skipLines
  if ← acceptWord "esac" then return none
  else
    let _ ← accept ['(']
    let patterns ← armPatterns dialect script ((← get).length + 1)
    let items ← script
    return some (.mk patterns items (← armEnd))

def choice (dialect : Dialect) (script : Parser (List Item)) : Parser Command := do
  let subject ← target dialect script
  expectWord "in"
  return .choice subject (← many (arm? dialect script))

def definedName? (text : Octets) : Option (Octets × Octets) :=
  let name := leadingRun text
  match skipBlanks (text.drop name.length) with
  | '(' :: rest =>
      match skipBlanks rest with
      | ')' :: rest => if isName name then some (name, rest) else none
      | _ => none
  | _ => none

/-! ## Commands -/

def compound? (dialect : Dialect) (script : Parser (List Item)) : Parser (Option Command) := do
  let text ← get
  if dialect = .extended ∧ ['(', '('].isPrefixOf text ∧ (calculation? 0 (text.drop 2)).isSome
  then
    set (text.drop 2)
    return some (.calculation (← calculated dialect script))
  else if ← accept ['('] then
    let items ← body script
    modify skipLines
    expect [')']
    return some (.subshell items)
  else if ← acceptWord "\x7b" then
    let items ← body script
    expectWord "\x7d"
    return some (.group items)
  else if ← acceptWord "if" then return some (← conditional script)
  else if ← acceptWord "while" then
    let condition ← body script
    return some (.loop false condition (← loopBody script))
  else if ← acceptWord "until" then
    let condition ← body script
    return some (.loop true condition (← loopBody script))
  else if ← acceptWord "for" then return some (← eachLoop dialect script)
  else if ← acceptWord "case" then return some (← choice dialect script)
  else if dialect = .extended then
    if ← acceptWord "[[" then
      let condition ← condition dialect script (3 * text.length + 3)
      expectWord "]]"
      return some (.test condition)
    else return none
  else return none

def redirected (dialect : Dialect) (script : Parser (List Item)) (command : Command) :
    Parser Command := do
  match ← redirections dialect script with
  | [] => return command
  | redirections => return .redirected command redirections

def definition (dialect : Dialect) (script : Parser (List Item)) (name : Octets) :
    Parser Command := do
  modify skipLines
  match ← compound? dialect script with
  | none => fail
  | some command => return .definition name (← redirected dialect script command)

def command (dialect : Dialect) (script : Parser (List Item)) (lines : Nat) :
    Parser Command := do
  modify skipComment
  if let some (name, rest) := definedName? (← get) then
    set rest
    definition dialect script name
  else if dialect = .extended ∧ (← acceptWord "function") then
    modify skipBlanks
    let text ← get
    match definedName? text with
    | some (name, rest) => set rest; definition dialect script name
    | none =>
        let name := leadingRun text
        set (text.drop name.length)
        definition dialect script name
  else
    match ← compound? dialect script with
    | some command => redirected dialect script command
    | none => simpleCommand dialect script lines

/-! ## Pipelines and items -/

def withFaults (command : Command) : Command :=
  .redirected command [.mk (some 2) .duplicate (Word.quotedText ['1'])]

def commandRow (dialect : Dialect) (script : Parser (List Item)) (lines : Nat) :
    (fuel : Nat) → Parser (List Command)
  | 0 => throw .tooDeep
  | fuel + 1 => do
      let first ← command dialect script lines
      modify skipComment
      let text ← get
      if ['|', '|'].isPrefixOf text then return [first]
      else if dialect = .extended ∧ ['|', '&'].isPrefixOf text then
        set (skipLines (text.drop 2))
        return withFaults first :: (← commandRow dialect script lines fuel)
      else if ← accept ['|'] then
        modify skipLines
        return first :: (← commandRow dialect script lines fuel)
      else return [first]

def pipeline (dialect : Dialect) (script : Parser (List Item)) (lines : Nat) :
    Parser Pipeline := do
  modify skipComment
  if dialect = .extended ∧ (← acceptWord "time") then modify skipComment
  let negated ← acceptWord "!"
  return .mk negated (← commandRow dialect script lines ((← get).length + 1))

def others (dialect : Dialect) (script : Parser (List Item)) (lines : Nat) :
    Parser (List (Bool × Pipeline)) :=
  many do
    modify skipComment
    if ← accept ['&', '&'] then
      modify skipLines
      return some (true, ← pipeline dialect script lines)
    else if ← accept ['|', '|'] then
      modify skipLines
      return some (false, ← pipeline dialect script lines)
    else return none

def item? (dialect : Dialect) (script : Parser (List Item)) (lines : Nat) (wholeLine : Bool) :
    Parser (Option Item) := do
  modify (if wholeLine then skipComment else skipLines)
  let text ← get
  if isClosing text ∨ (wholeLine ∧ isLineEnd text) then return none
  let first ← pipeline dialect script lines
  let others ← others dialect script lines
  modify skipComment
  let text ← get
  if isClosing text ∨ isLineEnd text then return some (.mk first others false)
  else if ← accept [';'] then return some (.mk first others false)
  else
    expect ['&']
    return some (.mk first others true)

def items (dialect : Dialect) (lines : Nat) : (fuel : Nat) → Parser (List Item)
  | 0 => throw .tooDeep
  | fuel + 1 => many (item? dialect (items dialect lines fuel) lines false)

def line? (dialect : Dialect) (lines : Nat) : Parser (Option (List Item)) := do
  modify skipLines
  let text ← get
  if text.isEmpty then return none
  let items ← many (item? dialect (items dialect lines (text.length + 1)) lines true)
  if !isLineEnd (← get) ∨ items.isEmpty then fail
  return some items

end Parser

end BuiltinWrappers.Script
