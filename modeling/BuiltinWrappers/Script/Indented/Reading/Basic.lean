import BuiltinWrappers.Script.Indented.Syntax
import BuiltinWrappers.Script.Indented.Token

/-!
# Readers of indented scripts

A script is read token by token.  While a body is read, the names that it binds
and uses are noted, as they decide where each name is looked up later.
-/

namespace BuiltinWrappers.Script.Indented

/--
What is left to read, and what was noted so far of the body that is being read.
Statements that must run before the one that is being read wait for it.  What is
waited for within a part that may be left out, or run several times, is waited for
at once.
-/
structure Source where
  tokens : List Token
  size : Nat
  names : Names := {}
  used : List String := []
  wanted : List String := []
  waiting : List Statement := []
  count : Nat := 0
  inFunction : Bool := false
  inLoop : Bool := false
  isAwaited : Bool := false
  waitsAtOnce : Bool := false
  isStart : Bool := true
  defersAnnotations : Bool := false

abbrev Reader := StateT Source Option

namespace Reading

/-! ## Single tokens -/

def tokens : Reader (List Token) := return (← get).tokens

def setTokens (tokens : List Token) : Reader PUnit :=
  modify fun source => { source with tokens }

def skip : Reader PUnit := modify fun source => { source with tokens := source.tokens.tail }

def next? : Reader (Option Token) := return (← tokens).head?

def taken (token : Token) : Reader Bool := do
  if (← next?) = some token then
    skip
    return true
  else return false

def takenSign (sign : String) : Reader Bool := taken (.sign sign)

def takenWord (word : String) : Reader Bool := taken (.name word)

def need (token : Token) : Reader PUnit := do
  if !(← taken token) then failure

def needSign (sign : String) : Reader PUnit := need (.sign sign)

def takenSign? (signs : List String) : Reader (Option String) := do
  match ← next? with
  | some (.sign sign) =>
      if signs.contains sign then
        skip
        return some sign
      else return none
  | _ => return none

def fuel : Reader Nat := return (← get).size

/-! ## Names -/

def keywords : List String :=
  ["False", "None", "True", "and", "as", "assert", "async", "await", "break", "class",
   "continue", "def", "del", "elif", "else", "except", "finally", "for", "from", "global",
   "if", "import", "in", "is", "lambda", "nonlocal", "not", "or", "pass", "raise", "return",
   "try", "while", "with", "yield"]

def name : Reader String := do
  match ← next? with
  | some (.name name) =>
      if keywords.contains name then failure
      else
        skip
        return name
  | _ => failure

def bind (name : String) : Reader PUnit := do
  if name = "__debug__" then failure
  modify fun source =>
    if source.names.owned.contains name then source
    else { source with names := { source.names with owned := name :: source.names.owned } }

def use (name : String) : Reader PUnit :=
  modify fun source =>
    if source.used.contains name then source else { source with used := name :: source.used }

def newName : Reader String := do
  let count := (← get).count
  modify fun source => { source with count := count + 1 }
  return "%" ++ Nat.repr count

/-- Names with dots between them, as one text. -/
def dottedName : (fuel : Nat) → Reader String
  | 0 => failure
  | fuel + 1 => do
      let first ← name
      if ← takenSign "." then return first ++ "." ++ (← dottedName fuel)
      return first

def waitingCall (name : String) (value : Expression) : Expression :=
  let library := Expression.call (.name "__import__") [.plain (.constant (.text "_async".toList))]
  .call (.member library name) [.plain value]

/-! ## Lists -/

def listed {α : Type} (item : Reader α) (closing : String) : (fuel : Nat) → Reader (List α)
  | 0 => failure
  | fuel + 1 => do
      if ← takenSign closing then return []
      let first ← item
      if ← takenSign "," then return first :: (← listed item closing fuel)
      needSign closing
      return [first]

def listedUpTo {α : Type} (item : Reader α) (closing : String) : Reader (List α) := do
  listed item closing (← fuel)

def separated {α : Type} (item : Reader α) : (fuel : Nat) → Reader (List α)
  | 0 => failure
  | fuel + 1 => do
      let first ← item
      if ← takenSign "," then return first :: (← separated item fuel)
      return [first]

/-! ## Bodies -/

def needDistinct (names : List String) : Reader PUnit := do
  if !names.Nodup then failure

/--
Read the inside of a body of its own, and tell what it does with names.  The names
that it wants from a body around it may be those of the function that is being read.
-/
def inBody {α : Type} (isFunction : Bool) (parameters : List String) (read : Reader α) :
    Reader (α × Names) := do
  let before ← get
  set { before with
    names := { owned := parameters }, used := [], wanted := [], waiting := [],
    inFunction := isFunction, inLoop := false, waitsAtOnce := false }
  let result ← read
  let inner ← get
  let names := inner.names
  let owned := names.owned.filter fun name =>
    !(names.shared.contains name) && !(names.outer.contains name)
  let unresolved :=
    if isFunction then inner.wanted.filter fun name => !owned.contains name else inner.wanted
  set { before with
    tokens := inner.tokens, count := inner.count,
    wanted := names.outer ++ unresolved ++ before.wanted }
  return (result, { names with owned })

def withWaiting {α : Type} (read : Reader α) : Reader (α × List Statement) := do
  let before := (← get).waiting
  modify fun source => { source with waiting := [] }
  let result ← read
  let waiting := (← get).waiting
  modify fun source => { source with waiting := before }
  return (result, waiting.reverse)

def atOnce {α : Type} (read : Reader α) : Reader α := do
  let before := (← get).waitsAtOnce
  modify fun source => { source with waitsAtOnce := true }
  let result ← read
  modify fun source => { source with waitsAtOnce := before }
  return result

def atOnceBefore {α : Type} (words : List String) (read : Reader α) : Reader α := do
  let before ← get
  let result ← read
  let after ← get
  let isFollowed : Bool :=
    match after.tokens.head? with
    | some (.name word) => words.contains word
    | _ => false
  if isFollowed ∧ before.waiting.length < after.waiting.length then
    set before
    atOnce read
  else return result

def inLoop {α : Type} (read : Reader α) : Reader α := do
  let before := (← get).inLoop
  modify fun source => { source with inLoop := true }
  let result ← read
  modify fun source => { source with inLoop := before }
  return result

/-! ## Targets -/

def isSpread : Expression → Bool
  | .spread _ => true
  | _ => false

mutual

def targetNames? : (fuel : Nat) → Expression → Option (List String)
  | 0, _ => none
  | fuel + 1, target =>
      match target with
      | .name name => some [name]
      | .member _ _ | .element _ _ => some []
      | .tuple elements | .list elements =>
          if 1 < (elements.filter isSpread).length then none
          else elementNames? fuel elements
      | _ => none

def elementNames? : (fuel : Nat) → List Expression → Option (List String)
  | 0, _ => none
  | _ + 1, [] => some []
  | fuel + 1, .spread inner :: rest => do
      return (← targetNames? fuel inner) ++ (← elementNames? fuel rest)
  | fuel + 1, element :: rest => do
      return (← targetNames? fuel element) ++ (← elementNames? fuel rest)

end

def deepestTarget : Nat := 1000

def needTarget (target : Expression) : Reader (List String) := do
  match targetNames? deepestTarget target with
  | some names => return names
  | none => failure

def bindTarget (target : Expression) : Reader PUnit := do
  (← needTarget target).forM bind

def isSingleTarget : Expression → Bool
  | .name _ | .member _ _ | .element _ _ => true
  | _ => false

end Reading

end BuiltinWrappers.Script.Indented
