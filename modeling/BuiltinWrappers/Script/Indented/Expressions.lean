import BuiltinWrappers.Script.Indented.Parameters
import BuiltinWrappers.Script.Indented.Reading.Statements

/-!
# Values of expressions

What an expression is worth in its scopes, which are given from the innermost to the
one of the whole script or library.
-/

namespace BuiltinWrappers.Script.Indented

variable [Evaluator]

namespace Expressions

/-! ## Constants and texts -/

def ofConstant : Constant → Value
  | .nothing => .nothing
  | .ellipsis => .ellipsis
  | .truth value => .truth value
  | .integer value => .integer value
  | .real value => .real (Floating.ofParts value)
  | .text characters => .text characters
  | .bytes octets => .bytes octets

def deepestForm : Nat := 20

def formatted (scopes : List Nat) : (fuel : Nat) → List FormatPart → Eval (List Char)
  | 0, _ => throw .exhausted
  | fuel + 1, parts => do
      let texts ← parts.mapM fun part => do
        match part with
        | .text characters => return characters
        | .value expression conversion form =>
            let value ← Evaluator.evaluate scopes expression
            let value ← Forms.converted conversion value
            Forms.formed value (← formatted scopes fuel form)
      return texts.flatten

/-! ## Several values -/

def spreadOut (scopes : List Nat) (expressions : List Expression) : Eval (List Value) := do
  let found ← expressions.mapM fun expression => do
    match expression with
    | .spread inner => Protocol.items (← Evaluator.evaluate scopes inner)
    | expression => return [← Evaluator.evaluate scopes expression]
  return found.flatten

def entriesOf (value : Value) : Eval (List (Value × Value)) := do
  match ← Kinds.core value with
  | .dictionary address => Eval.entriesAt address
  | _ =>
      if (← Attributes.lookUp? value "keys").isNone then
        Eval.typeFault ("'" ++ (← Kinds.nameOf value) ++ "' object is not a mapping")
      Methods.givenEntries { plain := [value] }

def dictionary (scopes : List Nat) (keys values : List Expression) : Eval Value := do
  let entries ← (keys.zip values).foldlM (fun found (key, value) => do
    match key with
    | .spread inner =>
        Protocol.insertAll found (← entriesOf (← Evaluator.evaluate scopes inner))
    | key =>
        let key ← Evaluator.evaluate scopes key
        Protocol.insert key (← Evaluator.evaluate scopes value) found) []
  Eval.newDictionary entries

def arguments (scopes : List Nat) (given : List Argument) : Eval Arguments :=
  given.foldlM (fun found argument => do
    match argument with
    | .plain expression =>
        return { found with plain := found.plain ++ [← Evaluator.evaluate scopes expression] }
    | .spread expression =>
        let values ← Protocol.items (← Evaluator.evaluate scopes expression)
        return { found with plain := found.plain ++ values }
    | .named name expression =>
        let value ← Evaluator.evaluate scopes expression
        return { found with named := found.named ++ [(name, value)] }
    | .namedSpread expression =>
        let entries ← entriesOf (← Evaluator.evaluate scopes expression)
        let more ← entries.mapM fun (key, value) => do
          match ← Kinds.core key with
          | .text characters => return (String.ofList characters, value)
          | _ => Eval.typeFault "keywords must be strings"
        if let some (name, _) := more.find? fun entry => found.named.any (·.1 = entry.1) then
          Eval.typeFault ("got multiple values for keyword argument '" ++ name ++ "'")
        return { found with named := found.named ++ more }) {}

/-! ## Assigning -/

/-- The first values of an iterator, as many as there are up to a number. -/
def firstValues (source : Value) : (count : Nat) → Eval (List Value)
  | 0 => return []
  | count + 1 => do
      match ← Evaluator.next source with
      | some value => return value :: (← firstValues source count)
      | none => return []

/-- The values for some targets, one of which may take all that the others leave. -/
def shares (targets : List Expression) (value : Value) :
    Eval (List (Expression × Value)) := do
  let source ←
    match value with
    | .tuple _ | .list _ | .text _ | .iterator _ | .generator _ => Protocol.iterator value
    | value =>
        try Protocol.iterator value
        catch
          | .fault fault =>
              if ← Protocol.isFaultOf "TypeError" fault then
                Eval.typeFault ("cannot unpack non-iterable " ++ (← Kinds.nameOf value) ++
                  " object")
              throw (.fault fault)
          | leap => throw leap
  match targets.findIdx? Reading.isSpread with
  | none =>
      let count := targets.length
      let values ← firstValues source (count + 1)
      if values.length < count then
        Eval.valueFault ("not enough values to unpack (expected " ++ Nat.repr count ++ ", got " ++
          Nat.repr values.length ++ ")")
      if count < values.length then
        Eval.valueFault ("too many values to unpack (expected " ++ Nat.repr count ++ ")")
      return targets.zip values
  | some place =>
      let values ← Protocol.items source
      let behind := targets.length - place - 1
      if values.length < place + behind then
        Eval.valueFault ("not enough values to unpack (expected at least " ++
          Nat.repr (place + behind) ++ ", got " ++ Nat.repr values.length ++ ")")
      let middle ← Eval.newList ((values.take (values.length - behind)).drop place)
      return (targets.take place).zip values ++
        (targets.drop place).zip (middle :: values.drop (values.length - behind))

def assign (scopes : List Nat) : (fuel : Nat) → Expression → Value → Eval PUnit
  | 0, _, _ => throw .exhausted
  | fuel + 1, target, value => do
      match target with
      | .name name => Scopes.assign scopes name value
      | .element object index =>
          let object ← Evaluator.evaluate scopes object
          Elements.setElement object (← Evaluator.evaluate scopes index) value
      | .member object name =>
          Attributes.setAttribute (← Evaluator.evaluate scopes object) name value
      | .spread inner => assign scopes fuel inner value
      | .tuple targets | .list targets =>
          (← shares targets value).forM fun (target, value) => assign scopes fuel target value
      | _ => Eval.fail "SyntaxError" "cannot assign to expression"

/-! ## Comprehensions -/

def innerScopes (scopes : List Nat) : Eval (List Nat) :=
  return (← Eval.allocate (.scope { level := .inner })) :: scopes

def allHold (scopes : List Nat) : List Expression → Eval Bool
  | [] => return true
  | condition :: conditions => do
      if ← Protocol.isTrue (← Evaluator.evaluate scopes condition) then allHold scopes conditions
      else return false

def collectedFrom {α : Type} (source : Value) (collect : Value → α → Eval α) :
    (fuel : Nat) → α → Eval α
  | 0, _ => throw .exhausted
  | fuel + 1, found => do
      match ← Evaluator.next source with
      | none => return found
      | some value => collectedFrom source collect fuel (← collect value found)

def collected {α : Type} (scopes : List Nat) (collect : α → Eval α) :
    (source? : Option Value) → List Clause → α → Eval α
  | _, [], found => collect found
  | source?, .mk target source conditions :: clauses, found => do
      let source ←
        match source? with
        | some source => pure source
        | none => Protocol.iterator (← Evaluator.evaluate scopes source)
      collectedFrom source (fun value found => do
        assign scopes Reading.deepestTarget target value
        if ← allHold scopes conditions then collected scopes collect none clauses found
        else return found) Protocol.mostValues found

def firstSource (scopes : List Nat) : List Clause → Eval (Option Value)
  | [] => return none
  | .mk _ source _ :: _ =>
      return some (← Protocol.iterator (← Evaluator.evaluate scopes source))

def comprehension (scopes : List Nat) (kind : Collected) (element value : Expression)
    (clauses : List Clause) : Eval Value := do
  let source? ← firstSource scopes clauses
  let inner ← innerScopes scopes
  match kind with
  | .dictionary =>
      let found ← collected inner (fun found => do
        let key ← Evaluator.evaluate inner element
        Protocol.insert key (← Evaluator.evaluate inner value) found) source? clauses []
      Eval.newDictionary found
  | kind =>
      let found ← collected inner (fun found => do
        return (← Evaluator.evaluate inner element) :: found) source? clauses []
      match kind with
      | .set => Eval.newSet (← Protocol.distinct found.reverse)
      | _ => Eval.newList found.reverse

def handingOut (element : Expression) : List Clause → List Statement
  | [] => [.give "" element false]
  | .mk target source conditions :: clauses =>
      [.each target source (underConditions conditions (handingOut element clauses)) []]
where
  underConditions (conditions : List Expression) (body : List Statement) : List Statement :=
    conditions.foldr (fun condition body => [.conditional condition body []]) body

def generator (scopes : List Nat) (element : Expression) (clauses : List Clause) :
    Eval Value := do
  let source? ← firstSource scopes clauses
  let inner ← innerScopes scopes
  let frames : List Frame :=
    match source?, handingOut element clauses with
    | some source, [.each target _ body otherwise] => [.each source target body otherwise]
    | _, statements => [.statements statements]
  return .generator (← Eval.allocate (.generator {
    name := "<genexpr>", scopes := inner, frames }))

/-! ## Functions -/

/-- The values that parameters have unless they are given others. -/
def defaults (scopes : List Nat) (parameters : List Parameter) :
    Eval (List (String × Value)) := do
  let found ← parameters.mapM fun parameter => do
    match parameter with
    | .mk name _ (some expression) _ => return [(name, ← Evaluator.evaluate scopes expression)]
    | _ => return []
  return found.flatten

def function (scopes : List Nat) (parameters : List Parameter) (body : Expression)
    (names : Names) : Eval Value := do
  return .closure (← Eval.allocate (.closure {
    name := "<lambda>", parameters, names, scopes, body := [.result body]
    defaults := ← defaults scopes parameters }))

/-! ## Scripts that scripts hold -/

def scriptText (value : Value) : Eval (List Char) := do
  match ← Kinds.core value with
  | .text characters => return characters
  | .bytes octets => return (Text.Octets.toString octets).toList
  | _ => Eval.typeFault "eval() arg 1 must be a string, bytes or code object"

def statementsOf (text : List Char) : Eval (List Statement) := do
  match statements? text with
  | some (statements, _) => return statements
  | none => Eval.fail "SyntaxError" "invalid syntax"

/--
Do something in scopes that are made of dictionaries, which take in afterwards what
was bound there.
-/
def inDictionaries {α : Type} (scopes : List Nat) (arguments : Arguments)
    (act : List Nat → Eval α) : Eval α := do
  let dictionary? (index : Nat) (name : String) : Option Nat :=
    match arguments.value? index name with
    | some (.dictionary address) => some address
    | _ => none
  let scopeOf (level : ScopeLevel) (address : Nat) : Eval Nat := do
    if (← Eval.scopeAt? address).isSome then return address
    let entries := Eval.entriesByName (← Eval.entriesAt address)
    Eval.allocate (.scope { level, entries })
  match dictionary? 1 "globals", dictionary? 2 "locals" with
  | none, none => act scopes
  | global?, local? =>
      let globals := global?.getD (Scopes.outermost scopes)
      let outer ← scopeOf .script globals
      let inner? ← local?.mapM (scopeOf .family)
      let result ← act (inner?.toList ++ [outer])
      let copyBack (dictionary scope : Nat) : Eval PUnit := do
        if dictionary ≠ scope then
          Eval.putEntries dictionary (← Eval.entriesAt scope)
      copyBack globals outer
      match local?, inner? with
      | some dictionary, some scope => copyBack dictionary scope
      | _, _ => pure ()
      return result

def evaluateText (scopes : List Nat) (arguments : Arguments) : Eval Value := do
  let text ← scriptText (← arguments.value 0 "source")
  let statements ← statementsOf (text.dropWhile fun character =>
    character = ' ' || character = '\t')
  inDictionaries scopes arguments fun scopes => do
    match statements with
    | [.expression expression] => Evaluator.evaluate scopes expression
    | _ => Eval.fail "SyntaxError" "invalid syntax"

def runText (scopes : List Nat) (arguments : Arguments) : Eval Value := do
  let statements ← statementsOf (← scriptText (← arguments.value 0 "source"))
  inDictionaries scopes arguments fun scopes => Evaluator.run scopes statements
  return .nothing

/-! ## Calls -/

def callInScopes? (scopes : List Nat) (function : Value) (arguments : Arguments) :
    Eval (Option Value) := do
  let isPlain := arguments.plain.isEmpty && arguments.named.isEmpty
  match function, isPlain with
  | .kind "super", true => some <$> Scopes.superior scopes
  | .routine "locals", _ | .routine "vars", true => some <$> Scopes.own scopes
  | .routine "globals", _ => return some (.dictionary (Scopes.outermost scopes))
  | .routine "dir", true =>
      match ← Scopes.own scopes with
      | .dictionary address =>
          some <$> Eval.newList (← Sorting.sorted ((← Eval.entriesAt address).map Prod.fst) {})
      | _ => return none
  | .routine "eval", _ => some <$> evaluateText scopes arguments
  | .routine "exec", _ => some <$> runText scopes arguments
  | .routine "compile", _ =>
      let text ← scriptText (← arguments.value 0 "source")
      let _ ← statementsOf text
      return some (.text text)
  | _, _ => return none

def call (scopes : List Nat) (function : Expression) (given : List Argument) : Eval Value := do
  let function ← Evaluator.evaluate scopes function
  let arguments ← arguments scopes given
  match ← callInScopes? scopes function arguments with
  | some value => return value
  | none => Evaluator.call function arguments

/-! ## All expressions -/

def compared (scopes : List Nat) : Value → List (Comparison × Expression) → Eval Value
  | _, [] => return .truth true
  | left, [(comparison, expression)] => do
      Operators.compare comparison left (← Evaluator.evaluate scopes expression)
  | left, (comparison, expression) :: rest => do
      let right ← Evaluator.evaluate scopes expression
      let result ← Operators.compare comparison left right
      if ← Protocol.isTrue result then compared scopes right rest else return result

def evaluate (scopes : List Nat) (expression : Expression) : Eval Value := do
  let evaluate := Evaluator.evaluate scopes
  match expression with
  | .constant value => return ofConstant value
  | .name name => Scopes.valueOf scopes name
  | .formatted parts => return .text (← formatted scopes deepestForm parts)
  | .member object name => Attributes.lookUp (← evaluate object) name
  | .call function given => call scopes function given
  | .element object index =>
      let object ← evaluate object
      Elements.element object (← evaluate index)
  | .slice start stop step =>
      let start ← evaluate start
      let stop ← evaluate stop
      return .slice start stop (← evaluate step)
  | .unary operator operand => Operators.unary operator (← evaluate operand)
  | .binary operator left right =>
      let left ← evaluate left
      Operators.binary operator left (← evaluate right)
  | .comparison first comparisons others =>
      compared scopes (← evaluate first) (comparisons.zip others)
  | .both first second =>
      let value ← evaluate first
      if ← Protocol.isTrue value then evaluate second else return value
  | .either first second =>
      let value ← evaluate first
      if ← Protocol.isTrue value then return value else evaluate second
  | .conditional condition first second =>
      if ← Protocol.isTrue (← evaluate condition) then evaluate first else evaluate second
  | .list inner => Eval.newList (← spreadOut scopes inner)
  | .tuple inner => return .tuple (← spreadOut scopes inner)
  | .set inner => Eval.newSet (← Protocol.distinct (← spreadOut scopes inner))
  | .dictionary keys values => dictionary scopes keys values
  | .collected kind element value clauses => comprehension scopes kind element value clauses
  | .generator element clauses => generator scopes element clauses
  | .function parameters body names => function scopes parameters body names
  | .spread inner => evaluate inner
  | .named name value =>
      let value ← evaluate value
      Scopes.assign (← Scopes.withoutInner scopes) name value
      return value

end Expressions

end BuiltinWrappers.Script.Indented
