import BuiltinWrappers.Script.Indented.Reading.Basic

/-!
# Reading expressions

Each level of expressions reads operands from the level that binds more tightly;
the levels are numbered from the loosest one.
-/

namespace BuiltinWrappers.Script.Indented.Reading

abbrev LevelReader := Nat → Reader Expression

/-! ## Levels -/

def chains : List (List String) :=
  [["|"], ["^"], ["&"], ["<<", ">>"], ["+", "-"], ["*", "/", "//", "%", "@"]]

def wholeLevel : Nat := 0
def choiceLevel : Nat := 1
def comparisonLevel : Nat := 4
def targetLevel : Nat := 5
def unaryLevel : Nat := 11
def powerLevel : Nat := 12
def primaryLevel : Nat := 13

def chain (read : Reader Expression) (operators : List String) :
    (fuel : Nat) → Expression → Reader Expression
  | 0, _ => failure
  | fuel + 1, left => do
      match (← takenSign? operators).bind BinaryOperator.ofSign? with
      | none => return left
      | some operator => chain read operators fuel (.binary operator left (← read))

def comparison? : Reader (Option Comparison) := do
  match ← tokens with
  | .name "in" :: rest =>
      setTokens rest
      return some .within
  | .name "not" :: .name "in" :: rest =>
      setTokens rest
      return some .notWithin
  | .name "is" :: .name "not" :: rest =>
      setTokens rest
      return some .notSame
  | .name "is" :: rest =>
      setTokens rest
      return some .same
  | .sign sign :: rest =>
      let found := [Comparison.equal, .unequal, .less, .lessEqual, .greater, .greaterEqual].find?
        (·.sign = sign)
      if found.isSome then setTokens rest
      return found
  | _ => return none

def comparisons (read : Reader Expression) :
    (fuel : Nat) → Reader (List (Comparison × Expression))
  | 0 => failure
  | fuel + 1 => do
      match ← comparison? with
      | none => return []
      | some comparison =>
          let right ← read
          return (comparison, right) :: (← comparisons read fuel)

/-! ## Lists of expressions -/

def endsExpressions : Token → Bool
  | .lineEnd | .deeper | .shallower => true
  | .sign sign =>
      [")", "]", "\x7d", "=", ":", ";"].contains sign ||
        (2 ≤ sign.length && sign.toList.getLast? = some '=' &&
          !(["==", "!=", "<=", ">="].contains sign))
  | .name name => ["in", "for", "if", "else", "as", "from"].contains name
  | _ => false

def moreExpressions (read : Reader Expression) : (fuel : Nat) → Reader (List Expression)
  | 0 => failure
  | fuel + 1 => do
      if (← next?).all endsExpressions then return []
      let next ← read
      if ← takenSign "," then return next :: (← moreExpressions read fuel)
      return [next]

def tupled (read : Reader Expression) : Reader Expression := do
  let first ← read
  if ← takenSign "," then
    return .tuple (first :: (← moreExpressions read (← fuel)))
  return first

def starred (read : LevelReader) : Reader Expression := do
  if ← takenSign "*" then return .spread (← read targetLevel)
  read wholeLevel

def needPlain (expression : Expression) : Reader Expression := do
  if isSpread expression then failure
  return expression

/-! ## Values handed out -/

/--
What stands behind a word by which a function hands out a value.  The value is
handed out before the statement that the expression stands in.
-/
def yielded (read : LevelReader) : Reader Expression := do
  if !(← get).inFunction then failure
  let receiver ← newName
  let delegates ← takenWord "from"
  let value ←
    if delegates then read wholeLevel
    else if (← next?).all endsExpressions then pure .nothing
    else tupled (starred read)
  let value := if (← get).isAwaited then waitingCall "Given" value else value
  modify fun source => { source with
    names := { source.names with yields := true }
    waiting := .give receiver value delegates :: source.waiting }
  return .name receiver

def yieldedOr (read : LevelReader) (other : Reader Expression) : Reader Expression := do
  if ← takenWord "yield" then yielded read else other

/-! ## Parameters -/

/--
Parameters up to a closing sign, the annotated ones with the types that they are
meant for.  A star alone, or in front of a name, begins those that are given by name.
-/
def parameterList (read : LevelReader) (annotated : Bool) (closing : String) :
    (fuel : Nat) → (kind : ParameterKind) → Reader (List Parameter)
  | 0, _ => failure
  | fuel + 1, kind => do
      let hint (spreads : Bool) : Reader (Option Expression) := do
        if annotated then
          if ← takenSign ":" then
            let found ← if spreads then starred read else read wholeLevel
            return if (← get).defersAnnotations then none else some found
        return none
      let more (kind : ParameterKind) : Reader (List Parameter) := do
        if ← takenSign "," then parameterList read annotated closing fuel kind
        else
          needSign closing
          return []
      if ← takenSign closing then return []
      if ← takenSign "**" then
        let name ← name
        let found : Parameter := .mk name .gatheringNamed none (← hint false)
        let _ ← takenSign ","
        needSign closing
        return [found]
      else if ← takenSign "*" then
        if kind = .named then failure
        if (← next?) = some (.sign ",") then
          skip
          if (← next?) = some (.sign closing) ∨ (← next?) = some (.sign "**") then failure
          parameterList read annotated closing fuel .named
        else
          let name ← name
          let found : Parameter := .mk name .gathering none (← hint true)
          return found :: (← more .named)
      else if ← takenSign "/" then
        if kind = .named then failure
        return .mk "/" .placed none none :: (← more kind)
      else
        let name ← name
        let found ← hint false
        let default ←
          if ← takenSign "=" then some <$> read wholeLevel else pure none
        return .mk name kind default found :: (← more kind)

def placedInFront (parameters : List Parameter) : Reader (List Parameter) := do
  let isSlash : Parameter → Bool
    | .mk name _ _ _ => name = "/"
  match parameters.span (!isSlash ·) with
  | (_, []) => return parameters
  | (front, _ :: rest) =>
      if front.isEmpty ∨ rest.any isSlash then failure
      return (front.map fun (.mk name _ default hint) =>
        .mk name .placed default hint) ++ rest

def parameterName : Parameter → String
  | .mk name _ _ _ => name

def defaultsStandLast : (found : Bool) → List Parameter → Bool
  | _, [] => true
  | found, .mk _ kind default _ :: rest =>
      match kind with
      | .placed | .free =>
          (!found || default.isSome) && defaultsStandLast (found || default.isSome) rest
      | _ => true

def parameters (read : LevelReader) (annotated : Bool) (closing : String) :
    Reader (List Parameter) := do
  let found ← placedInFront (← parameterList read annotated closing (← fuel) .free)
  needDistinct (found.map parameterName)
  if !defaultsStandLast false found then failure
  return found

/-! ## Comprehensions -/

def conditions (read : LevelReader) : (fuel : Nat) → Reader (List Expression)
  | 0 => failure
  | fuel + 1 => do
      if ← takenWord "if" then
        let first ← read choiceLevel
        return first :: (← conditions read fuel)
      return []

def clauses (read : LevelReader) : (fuel : Nat) → Reader (List Clause)
  | 0 => failure
  | fuel + 1 => do
      if ← takenWord "for" then
        let target ← tupled do
          if ← takenSign "*" then return .spread (← read targetLevel)
          read targetLevel
        let _ ← needTarget target
        if !(← takenWord "in") then failure
        let source ← read choiceLevel
        let tests ← conditions read fuel
        return .mk target source tests :: (← clauses read fuel)
      return []

def clausesHere (read : LevelReader) : Reader (List Clause) := do
  atOnce (clauses read (← fuel))

def clauseWords : List String := ["for", "async"]

/-! ## Calls and elements -/

def argument (read : LevelReader) : Reader Argument := do
  match ← tokens with
  | .name name :: .sign "=" :: rest =>
      if keywords.contains name then failure
      setTokens rest
      return .named name (← read wholeLevel)
  | .sign "*" :: rest =>
      setTokens rest
      return .spread (← read wholeLevel)
  | .sign "**" :: rest =>
      setTokens rest
      return .namedSpread (← read wholeLevel)
  | _ =>
      let value ← atOnceBefore clauseWords (read wholeLevel)
      let found ← clausesHere read
      return .plain (if found.isEmpty then value else .generator value found)

def argumentName? : Argument → Option String
  | .named name _ => some name
  | _ => none

def argumentsInOrder : (named unpacked : Bool) → List Argument → Bool
  | _, _, [] => true
  | named, unpacked, .plain _ :: rest => !named && !unpacked && argumentsInOrder named unpacked rest
  | named, unpacked, .spread _ :: rest => !unpacked && argumentsInOrder named unpacked rest
  | _, unpacked, .named _ _ :: rest => argumentsInOrder true unpacked rest
  | named, _, .namedSpread _ :: rest => argumentsInOrder named true rest

def arguments (read : LevelReader) : Reader (List Argument) := do
  let found ← listed (argument read) ")" (← fuel)
  if !argumentsInOrder false false found then failure
  needDistinct (found.filterMap argumentName?)
  return found

def subscriptItem (read : LevelReader) : Reader Expression := do
  let bound : Reader Expression := do
    match ← next? with
    | some (.sign ":") | some (.sign "]") | some (.sign ",") => return .nothing
    | _ => read wholeLevel
  if (← next?) = some (.sign ":") then
    skip
    let stop ← bound
    return .slice .nothing stop (← if ← takenSign ":" then bound else pure .nothing)
  else
    let start ← starred read
    if ← takenSign ":" then
      let stop ← bound
      return .slice start stop (← if ← takenSign ":" then bound else pure .nothing)
    return start

def subscript (read : LevelReader) (object : Expression) : Reader Expression := do
  let first ← subscriptItem read
  if ← takenSign "," then
    let others ← listed (subscriptItem read) "]" (← fuel)
    return .element object (.tuple (first :: others))
  needSign "]"
  return .element object (if isSpread first then .tuple [first] else first)

def trailers (read : LevelReader) : (fuel : Nat) → Expression → Reader Expression
  | 0, _ => failure
  | fuel + 1, object => do
      match ← takenSign? [".", "(", "["] with
      | some "." => trailers read fuel (.member object (← name))
      | some "(" => trailers read fuel (.call object (← arguments read))
      | some _ => trailers read fuel (← subscript read object)
      | none => return object

/-! ## Texts with values in them -/

/--
The source of an embedded expression, up to what ends it at the outermost level.
No backslash and no comment may stand in it.
-/
def embedded : (depth : Nat) → (quote : Option Char) → List Char →
    Option (List Char × List Char)
  | _, _, [] => some ([], [])
  | depth, some quote, character :: rest => do
      if character = '\\' then none
      let (inner, after) ← embedded depth (if character = quote then none else some quote) rest
      return (character :: inner, after)
  | depth, none, character :: rest =>
      if character = '\\' ∨ character = '#' then none
      else if character = '\'' ∨ character = '"' then do
        let (inner, after) ← embedded depth (some character) rest
        return (character :: inner, after)
      else if depth = 0 ∧ (character = '\x7d' ∨ character = ':' ∨
          (character = '!' ∧ rest.head? ≠ some '=')) then some ([], character :: rest)
      else do
        let depth :=
          if ['(', '[', '\x7b'].contains character then depth + 1
          else if [')', ']', '\x7d'].contains character then depth - 1
          else depth
        let (inner, after) ← embedded depth none rest
        return (character :: inner, after)

def conversion? : List Char → Option (Option Char × List Char)
  | '!' :: letter :: rest =>
      if ['r', 's', 'a'].contains letter then some (some letter, rest) else none
  | rest => some (none, rest)

def showsItself (source : List Char) : Bool :=
  let trimmed := (source.reverse.dropWhile (· = ' ')).reverse
  trimmed.getLast? = some '=' &&
    !(['=', '!', '<', '>'].contains (trimmed.dropLast.getLast?.getD ' '))

def withoutSign (source : List Char) : List Char :=
  (((source.reverse.dropWhile (· = ' ')).drop 1).reverse)

def embeddedExpression (read : LevelReader) (source : List Char) : Reader Expression := do
  match Token.ofExpression? source with
  | none => failure
  | some (_ :: inner) =>
      let before ← tokens
      setTokens inner
      let found ← yieldedOr read (tupled (starred read))
      needSign ")"
      if (← tokens) ≠ [.lineEnd] then failure
      setTokens before
      needPlain found
  | some [] => failure

def ofOption {α : Type} (value : Option α) : Reader α := fun source =>
  value.map fun value => (value, source)

/--
The parts of a text with values in braces, up to its end or, within the form of
a value, up to the closing brace.
-/
def formatParts (read : LevelReader) (raw within : Bool) :
    (fuel : Nat) → List Char → Reader (List FormatPart × List Char)
  | 0, _ => failure
  | _ + 1, [] => if within then failure else return ([], [])
  | fuel + 1, '\x7b' :: rest =>
      if rest.head? = some '\x7b' ∧ !within then do
        let (parts, rest) ← formatParts read raw within fuel rest.tail
        return (.text ['\x7b'] :: parts, rest)
      else do
        let (source, rest) ← ofOption (embedded 0 none rest)
        let shows := showsItself source
        let expression ← embeddedExpression read (if shows then withoutSign source else source)
        let (letter, rest) ← ofOption (conversion? rest)
        let (form, rest) ←
          match rest with
          | ':' :: rest => formatParts read raw true fuel rest
          | rest => pure ([], rest)
        if rest.head? ≠ some '\x7d' then failure
        let letter := if shows ∧ letter = none ∧ form.isEmpty then some 'r' else letter
        let (parts, rest) ← formatParts read raw within fuel rest.tail
        let shown := if shows then [FormatPart.text source] else []
        return (shown ++ .value expression letter form :: parts, rest)
  | fuel + 1, '\x7d' :: rest =>
      if within then return ([], '\x7d' :: rest)
      else if rest.head? = some '\x7d' then do
        let (parts, rest) ← formatParts read raw within fuel rest.tail
        return (.text ['\x7d'] :: parts, rest)
      else failure
  | fuel + 1, characters => do
      let plain := characters.takeWhile fun character =>
        character ≠ '\x7b' ∧ character ≠ '\x7d'
      let (parts, rest) ← formatParts read raw within fuel (characters.drop plain.length)
      return (.text (if raw then plain else Token.unescape false plain) :: parts, rest)

def texts (read : LevelReader) : (fuel : Nat) → Reader (List FormatPart)
  | 0 => failure
  | fuel + 1 => do
      match ← next? with
      | some (.text characters) =>
          skip
          return .text characters :: (← texts read fuel)
      | some (.formatted raw source) =>
          skip
          let (parts, _) ← formatParts read raw false (source.length + 1) source
          return parts ++ (← texts read fuel)
      | some (.bytes _) => failure
      | _ => return []

def plainText? : List FormatPart → Option (List Char)
  | [] => some []
  | .text characters :: parts => (plainText? parts).map (characters ++ ·)
  | .value _ _ _ :: _ => none

def bytesTexts : (fuel : Nat) → Reader (List Char)
  | 0 => failure
  | fuel + 1 => do
      match ← next? with
      | some (.bytes octets) =>
          skip
          return octets ++ (← bytesTexts fuel)
      | some (.text _) | some (.formatted _ _) => failure
      | _ => return []

/-! ## Brackets -/

def bracketed (read : LevelReader) : Reader Expression := do
  if ← takenSign ")" then return .tuple []
  let first ← yieldedOr read (atOnceBefore clauseWords (starred read))
  let found ← clausesHere read
  if !found.isEmpty then
    needSign ")"
    return .generator (← needPlain first) found
  if ← takenSign "," then
    return .tuple (first :: (← listedUpTo (starred read) ")"))
  needSign ")"
  needPlain first

def squareBracketed (read : LevelReader) : Reader Expression := do
  if ← takenSign "]" then return .list []
  let first ← atOnceBefore clauseWords (starred read)
  let found ← clausesHere read
  if !found.isEmpty then
    needSign "]"
    return .collected .list (← needPlain first) .nothing found
  if ← takenSign "," then
    return .list (first :: (← listedUpTo (starred read) "]"))
  needSign "]"
  return .list [first]

def entry (read : LevelReader) : Reader (Expression × Expression) := do
  if ← takenSign "**" then return (.spread (← read targetLevel), .nothing)
  let key ← read wholeLevel
  needSign ":"
  return (key, ← read wholeLevel)

/-- What stands in braces: a set, a dictionary or a comprehension. -/
def braced (read : LevelReader) : Reader Expression := do
  if ← takenSign "\x7d" then return .dictionary [] []
  let more (first : Expression × Expression) : Reader Expression := do
    let entries ←
      if ← takenSign "," then pure (first :: (← listedUpTo (entry read) "\x7d"))
      else
        needSign "\x7d"
        pure [first]
    return .dictionary (entries.map Prod.fst) (entries.map Prod.snd)
  if (← next?) = some (.sign "**") then more (← entry read)
  else
    let first ← atOnceBefore clauseWords (starred read)
    if ← takenSign ":" then
      let key ← needPlain first
      let value ← atOnceBefore clauseWords (read wholeLevel)
      let found ← clausesHere read
      if !found.isEmpty then
        needSign "\x7d"
        return .collected .dictionary key value found
      more (key, value)
    else
      let found ← clausesHere read
      if !found.isEmpty then
        needSign "\x7d"
        return .collected .set (← needPlain first) .nothing found
      if ← takenSign "," then
        return .set (first :: (← listedUpTo (starred read) "\x7d"))
      needSign "\x7d"
      return .set [first]

def atom (read : LevelReader) : Reader Expression := do
  let constant (value : Constant) : Reader Expression := do
    skip
    return .constant value
  match ← next? with
  | some (.integer value) => constant (.integer value)
  | some (.real value) => constant (.real value)
  | some (.bytes _) => return .constant (.bytes (← bytesTexts (← fuel)))
  | some (.text _) | some (.formatted _ _) =>
      let parts ← texts read (← fuel)
      match plainText? parts with
      | some characters => return .constant (.text characters)
      | none => return .formatted parts
  | some (.name "None") => constant .nothing
  | some (.name "True") => constant (.truth true)
  | some (.name "False") => constant (.truth false)
  | some (.name _) =>
      let found ← name
      use found
      return .name found
  | some (.sign "(") =>
      skip
      bracketed read
  | some (.sign "[") =>
      skip
      squareBracketed read
  | some (.sign "\x7b") =>
      skip
      braced read
  | some (.sign "...") => constant .ellipsis
  | _ => failure

/-! ## All levels -/

def function (read : LevelReader) : Reader Expression := do
  let found ← parameters read false ":"
  let (body, names) ← inBody true (found.map parameterName) (read wholeLevel)
  return .function found body names

def whole (read : LevelReader) : Reader Expression := do
  if ← takenWord "lambda" then return ← function read
  match ← tokens with
  | .name target :: .sign ":=" :: rest =>
      if keywords.contains target then failure
      setTokens rest
      bind target
      return .named target (← read wholeLevel)
  | _ =>
      let first ← atOnceBefore ["if"] (read choiceLevel)
      if ← takenWord "if" then
        let condition ← read choiceLevel
        if !(← takenWord "else") then failure
        return .conditional condition first (← atOnce (read wholeLevel))
      return first

def awaited (value : Expression) : Reader Expression := do
  let source ← get
  if !source.inFunction then failure
  if source.waitsAtOnce then return waitingCall "now" value
  let receiver ← newName
  modify fun source => { source with
    names := { source.names with awaits := true }
    waiting := .give receiver (waitingCall "body" value) true :: source.waiting }
  return .name receiver

/-- One level of expressions, given how the levels below and the operands are read. -/
def step (read : LevelReader) (level : Nat) : Reader Expression := do
  match level with
  | 0 => whole read
  | 1 =>
      let first ← read 2
      if ← takenWord "or" then return .either first (← atOnce (read 1))
      return first
  | 2 =>
      let first ← read 3
      if ← takenWord "and" then return .both first (← atOnce (read 2))
      return first
  | 3 =>
      if ← takenWord "not" then return .unary .not (← read 3)
      read comparisonLevel
  | 4 =>
      let first ← read targetLevel
      let others ← comparisons (read targetLevel) (← fuel)
      return if others.isEmpty then first
        else .comparison first (others.map Prod.fst) (others.map Prod.snd)
  | 11 =>
      match ← takenSign? ["-", "+", "~"] with
      | some "-" => return .unary .minus (← read unaryLevel)
      | some "+" => return .unary .plus (← read unaryLevel)
      | some _ => return .unary .invert (← read unaryLevel)
      | none => read powerLevel
  | 12 =>
      let base ← read primaryLevel
      if ← takenSign "**" then return .binary .power base (← read unaryLevel)
      return base
  | 13 =>
      if ← takenWord "await" then
        let value ← trailers read (← fuel) (← atom read)
        awaited value
      else trailers read (← fuel) (← atom read)
  | level =>
      let operand := read (level + 1)
      chain operand ((chains[level - targetLevel]?).getD []) (← fuel) (← operand)

def expressionAt : (fuel : Nat) → LevelReader
  | 0, _ => failure
  | fuel + 1, level => step (expressionAt fuel) level

def deepest : Nat := 3000

def expression : Reader Expression := expressionAt deepest wholeLevel

def expressions : Reader Expression := do
  needPlain (← tupled (starred (expressionAt deepest)))

def targets : Reader Expression := tupled do
  if ← takenSign "*" then return .spread (← expressionAt deepest targetLevel)
  expressionAt deepest targetLevel

end BuiltinWrappers.Script.Indented.Reading
