import BuiltinWrappers.Script.Record.Syntax
import BuiltinWrappers.Script.Record.Token

/-!
# Reading record scripts

Each level of expressions reads operands from the level that binds more tightly;
the levels are numbered from the loosest one.  Within the words of a print
statement a greater sign tells where the text goes.
-/

namespace BuiltinWrappers.Script.Record

open Text (Octets)

structure Source where
  tokens : List Token
  compares : Bool := true

abbrev Reader := StateT Source Option

namespace Reading

/-! ## Single tokens -/

def next? : Reader (Option Token) := return (← get).tokens.head?

def skip : Reader PUnit := modify fun source => { source with tokens := source.tokens.tail }

def taken (token : Token) : Reader Bool := do
  if (← next?) = some token then
    skip
    return true
  else return false

def need (token : Token) : Reader PUnit := do
  if !(← taken token) then failure

def takenSign? (signs : List String) : Reader (Option String) := do
  match ← next? with
  | some (.sign written) =>
      if signs.contains written then
        skip
        return some written
      else return none
  | _ => return none

def name : Reader String := do
  match ← next? with
  | some (.name word) =>
      if Token.isWord word then failure
      else
        skip
        return word
  | _ => failure

def fuel : Reader Nat := return (← get).tokens.length + 1

def skipLines (semicolons : Bool) : (fuel : Nat) → Reader PUnit
  | 0 => failure
  | fuel + 1 => do
      if ← taken .lineEnd then skipLines semicolons fuel
      else if semicolons then
        if ← taken (.sign ";") then skipLines semicolons fuel

def skipEnds : Reader PUnit := do skipLines false (← fuel)

def comparing {α : Type} (compares : Bool) (read : Reader α) : Reader α := do
  let before := (← get).compares
  modify fun source => { source with compares }
  let result ← read
  modify fun source => { source with compares := before }
  return result

def separated {α : Type} (item : Reader α) : (fuel : Nat) → Reader (List α)
  | 0 => failure
  | fuel + 1 => do
      let first ← item
      if ← taken (.sign ",") then
        skipEnds
        return first :: (← separated item fuel)
      return [first]

def listed {α : Type} (item : Reader α) (closing : String) : Reader (List α) := do
  if ← taken (.sign closing) then return []
  let items ← separated item (← fuel)
  need (.sign closing)
  return items

/-! ## Expressions -/

def routines : List String :=
  ["length", "substr", "index", "split", "sub", "gsub", "match", "sprintf", "int", "sqrt",
   "tolower", "toupper", "system", "close", "fflush", "rand", "srand"]

def isTarget : Expression → Bool
  | .name _ | .field _ | .element _ _ => true
  | _ => false

def wholeLevel : Nat := 0
def joinLevel : Nat := 7
def sumLevel : Nat := 8
def unaryLevel : Nat := 10
def powerLevel : Nat := 11
def stepLevel : Nat := 12
def atomLevel : Nat := 13

def chain (read : Reader Expression) (operators : List String) :
    (fuel : Nat) → Expression → Reader Expression
  | 0, _ => failure
  | fuel + 1, left => do
      match ← takenSign? operators with
      | none => return left
      | some operator => chain read operators fuel (.binary operator left (← read))

def beginsOperand : Token → Bool
  | .number _ | .quoted _ | .regex _ | .called _ => true
  | .name word => !Token.isWord word
  | .sign written => ["$", "!", "(", "-", "+", "++", "--"].contains written
  | .lineEnd => false

def joins (read : Reader Expression) : (fuel : Nat) → Expression → Reader Expression
  | 0, _ => failure
  | fuel + 1, left => do
      if (← next?).any beginsOperand then joins read fuel (.joined left (← read))
      else return left

def optionalTarget (read : Nat → Reader Expression) : Reader (Option Expression) := do
  match ← next? with
  | some (.sign "$") => return some (← read stepLevel)
  | some (.name word) =>
      if Token.isWord word then return none else return some (← read stepLevel)
  | _ => return none

def piped (read : Nat → Reader Expression) : (fuel : Nat) → Expression → Reader Expression
  | 0, _ => failure
  | fuel + 1, left => do
      match (← get).tokens with
      | .sign "|" :: .name "getline" :: _ =>
          skip
          skip
          piped read fuel (.line (.command left) (← optionalTarget read))
      | _ => return left

def memberships : (fuel : Nat) → Expression → Reader Expression
  | 0, _ => failure
  | fuel + 1, left => do
      if ← taken (.name "in") then
        let array ← name
        let indices :=
          match left with
          | .group inner => inner
          | other => [other]
        memberships fuel (.isIndex indices array)
      else return left

def grouped (read : Nat → Reader Expression) : Reader Expression := do
  let inner ← comparing true (listed (read wholeLevel) ")")
  if inner.length ≠ 1 ∧ (← next?) ≠ some (.name "in") then failure
  return .group inner

def atom (read : Nat → Reader Expression) : Reader Expression := do
  match ← next? with
  | some (.number value) =>
      skip
      return .number value
  | some (.quoted octets) =>
      skip
      return .text octets
  | some (.regex source) =>
      skip
      return .regex source
  | some (.sign "$") =>
      skip
      return .field (← read stepLevel)
  | some (.sign "(") =>
      skip
      grouped read
  | some (.sign "-") =>
      skip
      return .unary "-" (← read unaryLevel)
  | some (.sign "!") =>
      skip
      return .unary "!" (← read unaryLevel)
  | some (.called word) =>
      skip
      need (.sign "(")
      let arguments ← comparing true (listed (read wholeLevel) ")")
      return if routines.contains word then .routine word arguments else .call word arguments
  | some (.name "getline") =>
      skip
      let target ← optionalTarget read
      if ← taken (.sign "<") then return .line (.file (← read stepLevel)) target
      return .line .records target
  | some (.name _) =>
      let word ← name
      if ← taken (.sign "[") then
        return .element word (← comparing true (listed (read wholeLevel) "]"))
      if routines.contains word then
        if ← taken (.sign "(") then
          return .routine word (← comparing true (listed (read wholeLevel) ")"))
        return .routine word []
      return .name word
  | _ => failure

/-- The loosest level: assignments to a target, else conditional expressions. -/
def whole (read : Nat → Reader Expression) : Reader Expression := do
  let first ← read 1
  if isTarget first then
    match ← takenSign? ["=", "+=", "-=", "*=", "/=", "%=", "^="] with
    | some operator =>
        skipEnds
        let operator := String.ofList operator.toList.dropLast
        return .assign first operator (← read wholeLevel)
    | none => pure ()
  if ← taken (.sign "?") then
    skipEnds
    let second ← read wholeLevel
    skipEnds
    need (.sign ":")
    skipEnds
    return .conditional first second (← read wholeLevel)
  return first

def comparisonSigns (compares : Bool) : List String :=
  ["<", "<=", "==", "!=", ">="] ++ if compares then [">"] else []

def step (read : Nat → Reader Expression) (level : Nat) : Reader Expression := do
  let fuel ← fuel
  match level with
  | 0 => whole read
  | 1 =>
      let first ← read 2
      if ← taken (.sign "||") then
        skipEnds
        return .either first (← read 1)
      return first
  | 2 =>
      let first ← read 3
      if ← taken (.sign "&&") then
        skipEnds
        return .both first (← read 2)
      return first
  | 3 => memberships fuel (← read 4)
  | 4 =>
      let first ← read 5
      match ← takenSign? ["~", "!~"] with
      | some sign => return .matching (sign = "~") first (← read 5)
      | none => return first
  | 5 =>
      let first ← read 6
      match ← takenSign? (comparisonSigns (← get).compares) with
      | some operator => return .comparison operator first (← read 6)
      | none => return first
  | 6 => piped read fuel (← read joinLevel)
  | 7 => joins (read sumLevel) fuel (← read sumLevel)
  | 8 => chain (read 9) ["+", "-"] fuel (← read 9)
  | 9 => chain (read unaryLevel) ["*", "/", "%"] fuel (← read unaryLevel)
  | 10 =>
      match ← takenSign? ["!", "-", "+"] with
      | some operator => return .unary operator (← read unaryLevel)
      | none => read powerLevel
  | 11 =>
      let base ← read stepLevel
      match ← takenSign? ["^"] with
      | some _ => return .binary "^" base (← read unaryLevel)
      | none => return base
  | 12 =>
      match ← takenSign? ["++", "--"] with
      | some sign =>
          let target ← read stepLevel
          if isTarget target then
            return .stepped target (if sign = "++" then 1 else -1) true
          else failure
      | none =>
          let inner ← read atomLevel
          if isTarget inner then
            match ← takenSign? ["++", "--"] with
            | some sign => return .stepped inner (if sign = "++" then 1 else -1) false
            | none => return inner
          else return inner
  | _ => atom read

def expressionAt : (fuel : Nat) → (level : Nat) → Reader Expression
  | 0, _ => failure
  | fuel + 1, level => step (expressionAt fuel) level

def deepest : Nat := 3000

def expression : Reader Expression := expressionAt deepest wholeLevel

/-! ## Statements -/

def endsWords : Option Token → Bool
  | some .lineEnd | none => true
  | some (.sign written) => [";", "\x7d", ">", ">>", "|"].contains written
  | _ => false

def printWords : Reader (List Expression) := do
  if endsWords (← next?) then return []
  let before ← get
  if ← taken (.sign "(") then
    let inner ← comparing true (listed expression ")")
    if endsWords (← next?) then return inner
    set before
  comparing false (separated expression (← fuel))

def printGoal : Reader Goal := do
  let path : Reader Expression := comparing false (expressionAt deepest joinLevel)
  match ← takenSign? [">", ">>", "|"] with
  | some ">" => return .over (← path)
  | some ">>" => return .behind (← path)
  | some _ => return .command (← path)
  | none => return .output

def endsStatement : Option Token → Bool
  | some .lineEnd | none => true
  | some (.sign written) => written = ";" || written = "\x7d"
  | _ => false

def optionally (read : Reader Expression) : Reader (Option Expression) := do
  if endsStatement (← next?) then return none
  return some (← read)

/-- A statement that needs an end behind it. -/
def simpleStatement : Reader Statement := do
  match ← next? with
  | some (.name "print") =>
      skip
      let words ← printWords
      return .print false words (← printGoal)
  | some (.name "printf") =>
      skip
      let words ← printWords
      return .print true words (← printGoal)
  | some (.name "break") =>
      skip
      return .leave
  | some (.name "continue") =>
      skip
      return .nextRound
  | some (.name "next") =>
      skip
      return .nextRecord
  | some (.name "nextfile") =>
      skip
      return .nextFile
  | some (.name "exit") =>
      skip
      return .finish (← optionally expression)
  | some (.name "return") =>
      skip
      return .result (← optionally expression)
  | some (.name "delete") =>
      skip
      let array ← name
      if ← taken (.sign "[") then return .delete array (some (← listed expression "]"))
      return .delete array none
  | _ => return .expression (← expression)

def statementEnd : Reader PUnit := do
  match ← next? with
  | some (.sign "\x7d") | none => pure ()
  | some .lineEnd => skip
  | some (.sign ";") => skip
  | _ => failure

def optionalStatement (closing : String) : Reader (List Statement) := do
  if ← taken (.sign closing) then return []
  let found ← simpleStatement
  need (.sign closing)
  return [found]

def statementsUpTo (statement : Reader (List Statement)) : (fuel : Nat) → Reader (List Statement)
  | 0 => failure
  | fuel + 1 => do
      skipLines true (fuel + 1)
      if ← taken (.sign "\x7d") then return []
      let first ← statement
      return first ++ (← statementsUpTo statement fuel)

def body (statement : Reader (List Statement)) : Reader (List Statement) := do
  skipEnds
  if ← taken (.sign ";") then return []
  statement

def otherwise (statement : Reader (List Statement)) : Reader (List Statement) := do
  let before ← get
  skipLines true (← fuel)
  if ← taken (.name "else") then body statement
  else
    set before
    return []

def loopOver (statement : Reader (List Statement)) : Reader Statement := do
  need (.sign "(")
  match (← get).tokens with
  | .name index :: .name "in" :: .name array :: .sign ")" :: rest =>
      modify fun source => { source with tokens := rest }
      return .each index array (← body statement)
  | _ =>
      let start ← optionalStatement ";"
      let condition ← if ← taken (.sign ";") then pure none
        else do
          let found ← expression
          need (.sign ";")
          pure (some found)
      let step ← optionalStatement ")"
      return .counted start condition step (← body statement)

def statementWithin : (depth : Nat) → Reader (List Statement)
  | 0 => failure
  | depth + 1 => do
      let statement := statementWithin depth
      match ← next? with
      | some (.sign "\x7b") =>
          skip
          statementsUpTo statement (← fuel)
      | some (.name "if") =>
          skip
          need (.sign "(")
          let condition ← expression
          need (.sign ")")
          let first ← body statement
          return [.conditional condition first (← otherwise statement)]
      | some (.name "while") =>
          skip
          need (.sign "(")
          let condition ← expression
          need (.sign ")")
          return [.loop condition (← body statement)]
      | some (.name "do") =>
          skip
          let inner ← body statement
          skipLines true (← fuel)
          need (.name "while")
          need (.sign "(")
          let condition ← expression
          need (.sign ")")
          statementEnd
          return [.loopAfter inner condition]
      | some (.name "for") =>
          skip
          return [← loopOver statement]
      | some (.sign ";") =>
          skip
          return []
      | _ =>
          let found ← simpleStatement
          statementEnd
          return [found]

def deepestStatement : Nat := 200

def block : Reader (List Statement) := do
  need (.sign "\x7b")
  statementsUpTo (statementWithin deepestStatement) (← fuel)

/-! ## Whole scripts -/

def function : Reader Function := do
  let name ←
    match ← next? with
    | some (.called word) =>
        skip
        pure word
    | _ => name
  need (.sign "(")
  let parameters ← listed Reading.name ")"
  skipEnds
  return { name, parameters, body := ← block }

def rule : Reader Rule := do
  let pattern ←
    match ← next? with
    | some (.sign "\x7b") => pure Pattern.always
    | some (.name "BEGIN") =>
        skip
        pure .first
    | some (.name "END") =>
        skip
        pure .last
    | _ =>
        let start ← expression
        if ← taken (.sign ",") then
          skipEnds
          pure (.range start (← expression))
        else pure (.holds start)
  if (← next?) = some (.sign "\x7b") then return { pattern, action := some (← block) }
  return { pattern, action := none }

def script : (fuel : Nat) → RuleSet → Reader RuleSet
  | 0, _ => failure
  | fuel + 1, found => do
      skipLines true (fuel + 1)
      match ← next? with
      | none => return found
      | some (.name "function") | some (.name "func") =>
          skip
          let next ← function
          script fuel { found with functions := found.functions ++ [next] }
      | _ =>
          let next ← rule
          script fuel { found with rules := found.rules ++ [next] }

end Reading

def RuleSet.ofText? (text : Octets) : Option RuleSet := do
  let tokens ← Token.all? text
  let (found, _) ← (Reading.script (tokens.length + 1) {}).run { tokens }
  return found

end BuiltinWrappers.Script.Record
