import BuiltinWrappers.Script.Indented.Reading.Expressions

/-!
# Reading statements

A statement that is refused anywhere makes the whole script refused, so nothing of
it runs.
-/

namespace BuiltinWrappers.Script.Indented

namespace Reading

/-! ## Assignments -/

def augmentations : List String :=
  ["+=", "-=", "*=", "/=", "//=", "%=", "**=", "&=", "|=", "^=", "<<=", ">>=", "@="]

def assignedValue : Reader Expression :=
  yieldedOr (expressionAt deepest) expressions

def assignment : (fuel : Nat) → List Expression → Reader Statement
  | 0, _ => failure
  | fuel + 1, found => do
      let next ← assignedValue
      if ← takenSign "=" then
        bindTarget next
        assignment fuel (next :: found)
      else return .assign found.reverse next

def annotated (target : Expression) : Reader Statement := do
  if !isSingleTarget target then failure
  bindTarget target
  let found ← expression
  let hint := if (← get).defersAnnotations then Expression.nothing else found
  if ← takenSign "=" then return .annotated target hint (some (← assignedValue))
  return .annotated target hint none

def plainStatement : Reader (List Statement) := do
  if let .name _ :: .sign ":=" :: _ := ← tokens then failure
  if ← takenWord "yield" then
    let received ← yielded (expressionAt deepest)
    return [.expression received]
  let first ← tupled (starred (expressionAt deepest))
  if ← takenSign "=" then
    bindTarget first
    return [← assignment (← fuel) [first]]
  else if ← takenSign ":" then return [← annotated first]
  else
    match ← takenSign? augmentations with
    | some sign =>
        if !isSingleTarget first then failure
        bindTarget first
        match BinaryOperator.ofSign? (String.ofList sign.toList.dropLast) with
        | some operator => return [.augment first operator (← assignedValue)]
        | none => failure
    | none => return [.expression (← needPlain first)]

/-! ## Loading libraries -/

def load : Reader Statement := do
  let library ← dottedName (← fuel)
  let front := String.ofList (library.toList.takeWhile (· ≠ '.'))
  if ← takenWord "as" then
    let name ← name
    bind name
    return .load name library true
  bind front
  return .load front library false

def loadedName : Reader (String × String) := do
  let original ← name
  let name ← if ← takenWord "as" then name else pure original
  bind name
  return (name, original)

def futures : List String :=
  ["nested_scopes", "generators", "division", "absolute_import", "with_statement",
   "print_function", "unicode_literals", "barry_as_FLUFL", "generator_stop", "annotations"]

def dots : (fuel : Nat) → Reader Nat
  | 0 => failure
  | fuel + 1 => do
      match ← takenSign? [".", "..."] with
      | some "." => return (← dots fuel) + 1
      | some _ => return (← dots fuel) + 3
      | none => return 0

def loadFrom : Reader Statement := do
  let level ← dots (← fuel)
  let library ←
    if (← next?) = some (.name "import") then
      if level = 0 then failure
      pure ""
    else dottedName (← fuel)
  if !(← takenWord "import") then failure
  let entries ←
    if ← takenSign "*" then
      if (← get).inFunction then failure
      pure [("*", "*")]
    else if ← takenSign "(" then
      let found ← listedUpTo loadedName ")"
      if found.isEmpty then failure
      pure found
    else separated loadedName (← fuel)
  if level = 0 ∧ library = "__future__" then
    if !(← get).isStart ∨ !entries.all (futures.contains ·.2) then failure
    if entries.any (·.2 = "annotations") then
      modify fun source => { source with defersAnnotations := true }
  return .loadFrom level library entries

/-! ## Simple statements -/

def declare (isShared : Bool) : Reader PUnit := do
  let found ← separated name (← fuel)
  let source ← get
  if found.any fun name => source.used.contains name || source.names.owned.contains name then
    failure
  let names := source.names
  set { source with
    names :=
      if isShared then { names with shared := found ++ names.shared }
      else { names with outer := found ++ names.outer } }

def deletion : Reader Statement := do
  let found ← tupled (expressionAt deepest targetLevel)
  let targets :=
    match found with
    | .tuple elements | .list elements => elements
    | target => [target]
  if targets.any isSpread then failure
  targets.forM bindTarget
  return .delete targets

def simpleStatement : Reader (List Statement) := do
  let word (name : String) : Reader PUnit := need (.name name)
  match ← next? with
  | some (.name "pass") =>
      skip
      return [.pass]
  | some (.name "break") =>
      skip
      if !(← get).inLoop then failure
      return [.leave]
  | some (.name "continue") =>
      skip
      if !(← get).inLoop then failure
      return [.nextRound]
  | some (.name "return") =>
      skip
      if !(← get).inFunction then failure
      if (← next?).all endsExpressions then return [.result .nothing]
      return [.result (← assignedValue)]
  | some (.name "raise") =>
      skip
      if (← next?).all endsExpressions then return [.raised none none]
      let fault ← expression
      if ← takenWord "from" then return [.raised (some fault) (some (← expression))]
      return [.raised (some fault) none]
  | some (.name "import") =>
      skip
      separated load (← fuel)
  | some (.name "from") =>
      skip
      return [← loadFrom]
  | some (.name "global") =>
      skip
      declare true
      return [.pass]
  | some (.name "nonlocal") =>
      skip
      declare false
      return [.pass]
  | some (.name "del") =>
      skip
      return [← deletion]
  | some (.name "assert") =>
      word "assert"
      let condition ← expression
      if ← takenSign "," then return [.assertion condition (some (← expression))]
      return [.assertion condition none]
  | _ => plainStatement

def staysStart : List Statement → Bool
  | [.loadFrom 0 "__future__" _] | [.expression (.constant (.text _))] => true
  | _ => false

def simpleLine : (fuel : Nat) → Reader (List Statement)
  | 0 => failure
  | fuel + 1 => do
      let (found, before) ← withWaiting simpleStatement
      modify fun source => { source with isStart := source.isStart && staysStart found }
      let found := before ++ found
      if ← takenSign ";" then
        if ← taken .lineEnd then return found
        return found ++ (← simpleLine fuel)
      need .lineEnd
      return found

/-! ## Blocks -/

abbrev BlockReader := Reader (List Statement)

def otherwise (block : BlockReader) (word : String) : Reader (List Statement) := do
  if ← takenWord word then block else return []

def branches (block : BlockReader) : (fuel : Nat) → Reader (List Statement)
  | 0 => failure
  | fuel + 1 => do
      let (condition, before) ← withWaiting expression
      let body ← block
      if ← takenWord "elif" then
        return before ++ [.conditional condition body (← branches block fuel)]
      return before ++ [.conditional condition body (← otherwise block "else")]

def loop (block : BlockReader) : Reader (List Statement) := do
  let (condition, before) ← withWaiting expression
  let body ← inLoop block
  let otherwise ← otherwise block "else"
  if before.isEmpty then return [.loop condition body otherwise]
  let leaving := Statement.conditional condition [] [.leave]
  return [.loop (.constant (.truth true)) (before ++ leaving :: body) otherwise]

def each (block : BlockReader) : Reader (List Statement) := do
  let target ← targets
  bindTarget target
  if !(← takenWord "in") then failure
  let (source, before) ← withWaiting (tupled (starred (expressionAt deepest)))
  let body ← inLoop block
  return before ++ [.each target source body (← otherwise block "else")]

def called (name method : String) (values : List Expression) : Expression :=
  .call (.member (.name name) method) (values.map .plain)

def eachAwaited (block : BlockReader) : Reader (List Statement) := do
  let target ← targets
  bindTarget target
  if !(← takenWord "in") then failure
  let (source, before) ← withWaiting (tupled (starred (expressionAt deepest)))
  let body ← inLoop block
  let after ← otherwise block "else"
  let (run, goesOn, value) := (← newName, ← newName, ← newName)
  [run, goesOn, value].forM bind
  modify fun source => { source with names := { source.names with awaits := true } }
  let truth (value : Bool) : Expression := .constant (.truth value)
  let next := Statement.give value (waitingCall "body" (called run "__anext__" [])) true
  let ending := Handler.mk (some (.name "StopAsyncIteration")) none
    [.assign [.name goesOn] (truth false)]
  return before ++
    [.assign [.name run] (.call (.member source "__aiter__") []),
     .assign [.name goesOn] (truth true),
     .loop (.name goesOn)
       [.attempt [next] [ending] (.assign [target] (.name value) :: body) []] after]

/-! ## Faults and resources -/

def handlers (block : BlockReader) : (fuel : Nat) → Reader (List Handler)
  | 0 => failure
  | fuel + 1 => do
      if !(← takenWord "except") then return []
      let kind ← if (← next?) = some (.sign ":") then pure none else some <$> expression
      let caught ←
        if kind.isSome then
          if ← takenWord "as" then some <$> name else pure none
        else pure none
      caught.forM bind
      let body ← block
      let others ← handlers block fuel
      if kind.isNone ∧ !others.isEmpty then failure
      return .mk kind caught body :: others

def attempt (block : BlockReader) : Reader Statement := do
  let body ← block
  let found ← handlers block (← fuel)
  let unharmed ← if found.isEmpty then pure [] else otherwise block "else"
  let hasEnd := (← next?) = some (.name "finally")
  let afterwards ← otherwise block "finally"
  if found.isEmpty ∧ !hasEnd then failure
  return .attempt body found unharmed afterwards

def resource : Reader (Expression × Option Expression) := do
  let source ← expression
  if ← takenWord "as" then
    let target ← do
      if ← takenSign "*" then failure
      expressionAt deepest targetLevel
    bindTarget target
    return (source, some target)
  return (source, none)

def bracketedResources : Reader (List (Expression × Option Expression)) := do
  needSign "("
  let found ← listedUpTo resource ")"
  if found.isEmpty ∨ (← next?) ≠ some (.sign ":") then failure
  return found

def using_ (block : BlockReader) : Reader (List Statement) := do
  let (found, before) ← withWaiting do
    bracketedResources <|> (do separated resource (← fuel))
  let body ← block
  return before ++ found.foldr (fun (source, target) body => [.using source target body]) body

def awaitedResource (source : Expression) (target : Option Expression) (body : List Statement) :
    Reader (List Statement) := do
  let names : List String := [← newName, ← newName, ← newName, ← newName]
  names.forM bind
  match names with
  | [resource, isLeft, value, fault] =>
      let truth (value : Bool) : Expression := .constant (.truth value)
      let waitFor (method : String) (values : List Expression) : Statement :=
        .give value (waitingCall "body" (called resource method values)) true
      let kind := Expression.call (.name "type") [.plain (.name fault)]
      let handler := Handler.mk (some (.name "BaseException")) (some fault)
        [.assign [.name isLeft] (truth true),
         waitFor "__aexit__" [kind, .name fault, .nothing],
         .conditional (.unary .not (.name value)) [.raised none none] []]
      let leaving := Statement.conditional (.unary .not (.name isLeft))
        [waitFor "__aexit__" [.nothing, .nothing, .nothing]] []
      let entered := target.toList.map fun target => Statement.assign [target] (.name value)
      return [.assign [.name resource] source, .assign [.name isLeft] (truth false),
        waitFor "__aenter__" [], .attempt (entered ++ body) [handler] [] [leaving]]
  | _ => failure

def usingAwaited (block : BlockReader) : Reader (List Statement) := do
  let (found, before) ← withWaiting do
    bracketedResources <|> (do separated resource (← fuel))
  let body ← block
  modify fun source => { source with names := { source.names with awaits := true } }
  return before ++ (← found.foldrM (fun (source, target) body =>
    awaitedResource source target body) body)

/-! ## Functions and families -/

def needResolved (names : Names) : Reader PUnit := do
  needDistinct (names.owned.filter names.shared.contains)
  if names.owned.any names.outer.contains then failure

def definition (block : BlockReader) (decorators : List Expression) (isAwaited : Bool) :
    Reader Statement := do
  let name ← name
  needSign "("
  let found ← parameters (expressionAt deepest) true ")"
  let hint ←
    if ← takenSign "->" then
      let hint ← expression
      pure (if (← get).defersAnnotations then none else some hint)
    else pure none
  let before := (← get).isAwaited
  modify fun source => { source with isAwaited }
  let (body, names) ← inBody true (found.map parameterName) block
  modify fun source => { source with isAwaited := before }
  needResolved names
  if names.awaits ∧ !isAwaited then failure
  bind name
  let decorators :=
    if isAwaited then
      decorators ++ [.member (.call (.name "__import__") [.plain (.constant (.text
        "_async".toList))]) (if names.yields then "giving" else "waiting")]
    else decorators
  let names := { names with yields := names.yields || isAwaited }
  return .definition decorators (.mk name found body hint names)

def family (block : BlockReader) (decorators : List Expression) : Reader Statement := do
  let name ← name
  let found ←
    if ← takenSign "(" then arguments (expressionAt deepest) else pure []
  let (body, names) ← inBody false [] block
  bind name
  return .family decorators found (.mk name [] body none names)

def decorators : (fuel : Nat) → Reader (List Expression)
  | 0 => failure
  | fuel + 1 => do
      if ← takenSign "@" then
        let first ← expression
        need .lineEnd
        return first :: (← decorators fuel)
      return []

/-! ## Choices -/

def shapeValue : Reader Expression := do
  match ← next? with
  | some (.sign "-") => expressionAt deepest targetLevel
  | some (.name "None") | some (.name "True") | some (.name "False")
  | some (.integer _) | some (.real _) | some (.text _) | some (.bytes _) =>
      expressionAt deepest targetLevel
  | _ => failure

def dottedExpression : (fuel : Nat) → Expression → Reader Expression
  | 0, _ => failure
  | fuel + 1, object => do
      if ← takenSign "." then dottedExpression fuel (.member object (← name)) else return object

def captured : Reader (Option String) := do
  let name ← name
  if name = "_" then return none
  bind name
  return some name

mutual

def shape : (fuel : Nat) → Reader Shape
  | 0 => failure
  | fuel + 1 => do
      let first ← closedShape fuel
      let others ← moreShapes fuel
      let found := if others.isEmpty then first else .either (first :: others)
      if ← takenWord "as" then
        let name ← name
        bind name
        return .bound found name
      return found

def moreShapes : (fuel : Nat) → Reader (List Shape)
  | 0 => failure
  | fuel + 1 => do
      if ← takenSign "|" then
        let first ← closedShape fuel
        return first :: (← moreShapes fuel)
      return []

def closedShape : (fuel : Nat) → Reader Shape
  | 0 => failure
  | fuel + 1 => do
      match ← tokens with
      | .sign "(" :: _ =>
          skip
          if ← takenSign ")" then return .sequence []
          let first ← shapeOrRest fuel
          if ← takenSign "," then
            return .sequence (first :: (← listedShapes ")" fuel))
          needSign ")"
          return match first with
            | .rest name => .sequence [.rest name]
            | first => first
      | .sign "[" :: _ =>
          skip
          return .sequence (← listedShapes "]" fuel)
      | .sign "\x7b" :: _ =>
          skip
          shapeEntries fuel [] []
      | .name word :: _ =>
          if ["None", "True", "False"].contains word then return .equal (← shapeValue)
          let found ← name
          if (← next?) = some (.sign ".") ∨ (← next?) = some (.sign "(") then
            use found
            let value ← dottedExpression (← Reading.fuel) (.name found)
            if ← takenSign "(" then shapeArguments fuel value [] []
            else return .equal value
          else if found = "_" then return .anything none
          else
            bind found
            return .anything (some found)
      | _ => return .equal (← shapeValue)

def shapeOrRest : (fuel : Nat) → Reader Shape
  | 0 => failure
  | fuel + 1 => do
      if ← takenSign "*" then return .rest (← captured)
      shape fuel

def listedShapes (closing : String) : (fuel : Nat) → Reader (List Shape)
  | 0 => failure
  | fuel + 1 => do
      if ← takenSign closing then return []
      let first ← shapeOrRest fuel
      if ← takenSign "," then return first :: (← listedShapes closing fuel)
      needSign closing
      return [first]

def shapeEntries : (fuel : Nat) → List Expression → List Shape → Reader Shape
  | 0, _, _ => failure
  | fuel + 1, keys, shapes => do
      let done (rest : Option String) : Shape := .mapping keys.reverse shapes.reverse rest
      if ← takenSign "\x7d" then return done none
      if ← takenSign "**" then
        let name ← name
        bind name
        let _ ← takenSign ","
        needSign "\x7d"
        return done (some name)
      let key ←
        match ← next? with
        | some (.name word) =>
            if ["None", "True", "False"].contains word then shapeValue
            else
              let first ← name
              use first
              dottedExpression (← Reading.fuel) (.name first)
        | _ => shapeValue
      needSign ":"
      let found ← shape fuel
      if !(← takenSign ",") then
        if (← next?) ≠ some (.sign "\x7d") then failure
      shapeEntries fuel (key :: keys) (found :: shapes)

def shapeArguments : (fuel : Nat) → Expression → List Shape → List String → Reader Shape
  | 0, _, _, _ => failure
  | fuel + 1, value, shapes, names => do
      if ← takenSign ")" then return .family value shapes.reverse names.reverse
      let names ←
        match ← tokens with
        | .name found :: .sign "=" :: rest =>
            setTokens rest
            pure (found :: names)
        | _ =>
            if !names.isEmpty then failure
            pure names
      let found ← shape fuel
      if !(← takenSign ",") then
        if (← next?) ≠ some (.sign ")") then failure
      shapeArguments fuel value (found :: shapes) names

end

def choiceShape : Reader Shape := do
  let fuel ← fuel
  let first ← shapeOrRest fuel
  if ← takenSign "," then
    let rec more : Nat → Reader (List Shape)
      | 0 => failure
      | count + 1 => do
          if (← next?) = some (.sign ":") ∨ (← next?) = some (.name "if") then return []
          let next ← shapeOrRest fuel
          if ← takenSign "," then return next :: (← more count)
          return [next]
    return .sequence (first :: (← more fuel))
  return match first with
    | .rest name => .sequence [.rest name]
    | first => first

def choices (block : BlockReader) : (fuel : Nat) → Reader (List Choice)
  | 0 => failure
  | fuel + 1 => do
      if ← taken .shallower then return []
      if !(← takenWord "case") then failure
      let shape ← choiceShape
      let guard ← if ← takenWord "if" then some <$> expression else pure none
      let body ← block
      return .mk shape guard body :: (← choices block fuel)

def choose (block : BlockReader) : Reader (List Statement) := do
  if !(← takenWord "match") then failure
  let (subject, before) ← withWaiting (tupled (starred (expressionAt deepest)))
  needSign ":"
  need .lineEnd
  need .deeper
  let found ← choices block (← fuel)
  if found.isEmpty then failure
  return before ++ [.choose subject found]

/-! ## All statements -/

def decorated (block : BlockReader) (found : List Expression) : Reader Statement := do
  if ← takenWord "def" then definition block found false
  else if ← takenWord "class" then family block found
  else if ← takenWord "async" then
    if !(← takenWord "def") then failure
    definition block found true
  else failure

def statement (block : BlockReader) : Reader (List Statement) := do
  let compound (read : Reader (List Statement)) : Reader (List Statement) := do
    skip
    modify fun source => { source with isStart := false }
    read
  match ← next? with
  | some (.name "if") => compound (do branches block (← fuel))
  | some (.name "while") => compound (loop block)
  | some (.name "for") => compound (each block)
  | some (.name "with") => compound (using_ block)
  | some (.name "try") => compound (return [← attempt block])
  | some (.name "def") => compound (return [← definition block [] false])
  | some (.name "class") => compound (return [← family block []])
  | some (.sign "@") =>
      let (found, before) ← withWaiting (do decorators (← fuel))
      modify fun source => { source with isStart := false }
      return before ++ [← decorated block found]
  | some (.name "async") => compound do
      if ← takenWord "def" then return [← definition block [] true]
      else if ← takenWord "for" then eachAwaited block
      else if ← takenWord "with" then usingAwaited block
      else failure
  | some (.name "match") => choose block <|> (do simpleLine (← fuel))
  | _ => simpleLine (← fuel)

def statementsUpTo (block : BlockReader) (closing : Option Token) :
    (fuel : Nat) → List (List Statement) → Reader (List Statement)
  | 0, _ => failure
  | fuel + 1, found => do
      if (← next?) = closing then return found.reverse.flatten
      let next ← statement block
      statementsUpTo block closing fuel (next :: found)

def block : (depth : Nat) → BlockReader
  | 0 => failure
  | depth + 1 => do
      needSign ":"
      if ← taken .lineEnd then
        need .deeper
        let body ← statementsUpTo (block depth) (some .shallower) (← fuel) []
        skip
        return body
      simpleLine (← fuel)

def deepestBlock : Nat := 100

end Reading

def statements? (script : List Char) : Option (List Statement × Names) := do
  let tokens ← Token.ofScript? script
  let read : Reader (List Statement) := do
    Reading.statementsUpTo (Reading.block Reading.deepestBlock) none (← Reading.fuel) []
  let (statements, source) ← read.run { tokens, size := tokens.length + 1 }
  if source.wanted.isEmpty ∧ source.names.outer.isEmpty then
    some (statements, source.names)
  else none

end BuiltinWrappers.Script.Indented
