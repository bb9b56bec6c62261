import BuiltinWrappers.Script.Indented.Expressions

/-!
# Values and shapes

Whether a value fits a shape, and what the names in the shape stand for then.
-/

namespace BuiltinWrappers.Script.Indented

variable [Evaluator]

namespace Shapes

abbrev Bindings := List (String × Value)

def row? (value : Value) : Eval (Option (List Value)) := do
  match ← Kinds.core value with
  | .tuple values => return some values
  | .list address => return some (← Eval.listAt address)
  | .range start stop step => return some (← Protocol.items (.range start stop step))
  | _ => return none

def standsForItself (kind : Value) : Bool :=
  match kind with
  | .kind name =>
      ["bool", "bytearray", "bytes", "dict", "float", "frozenset", "int", "list", "set", "str",
       "tuple"].contains name
  | _ => false

def placedNames (kind : Value) : Eval (List String) := do
  match ← Attributes.lookUp? kind "__match_args__" with
  | some (.tuple names) =>
      names.mapM fun name => do return String.ofList (← Protocol.needText name)
  | _ => return []

def isRest : Shape → Bool
  | .rest _ => true
  | _ => false

/-- Compare in order, as long as everything fits. -/
def allFit (fit : Shape → Value → Eval (Option Bindings)) :
    List (Shape × Value) → Eval (Option Bindings)
  | [] => return some []
  | (shape, value) :: others => do
      match ← fit shape value with
      | none => return none
      | some bindings => return (← allFit fit others).map (bindings ++ ·)

def anyFits (fit : Shape → Value → Eval (Option Bindings)) (value : Value) :
    List Shape → Eval (Option Bindings)
  | [] => return none
  | shape :: shapes => do
      match ← fit shape value with
      | some bindings => return some bindings
      | none => anyFits fit value shapes

def rowFits (fit : Shape → Value → Eval (Option Bindings)) (shapes : List Shape)
    (values : List Value) : Eval (Option Bindings) := do
  match shapes.findIdx? isRest with
  | none =>
      if shapes.length ≠ values.length then return none
      allFit fit (shapes.zip values)
  | some place =>
      let behind := shapes.length - place - 1
      if values.length < place + behind then return none
      let stop := values.length - behind
      match ← allFit fit ((shapes.take place).zip values ++
          (shapes.drop (place + 1)).zip (values.drop stop)) with
      | none => return none
      | some bindings =>
          match (shapes[place]? : Option Shape) with
          | some (.rest (some name)) =>
              let rest ← Eval.newList ((values.take stop).drop place)
              return some ((name, rest) :: bindings)
          | _ => return some bindings

def mappingFits (fit : Shape → Value → Eval (Option Bindings)) (entries : List (Value × Value))
    (keys : List Value) (shapes : List Shape) (rest : Option String) :
    Eval (Option Bindings) := do
  let found ← keys.mapM fun key => Protocol.find? key entries
  if found.any Option.isNone then return none
  match ← allFit fit (shapes.zip (found.filterMap id)) with
  | none => return none
  | some bindings =>
      match rest with
      | none => return some bindings
      | some name =>
          let others ← entries.filterM fun (key, _) => do return !(← Protocol.contains key keys)
          return some ((name, ← Eval.newDictionary others) :: bindings)

def familyFits (fit : Shape → Value → Eval (Option Bindings)) (kind value : Value)
    (shapes : List Shape) (names : List String) : Eval (Option Bindings) := do
  if !(← Families.isInstance Families.deepestKinds value kind) then return none
  let placed := shapes.take (shapes.length - names.length)
  let named := shapes.drop placed.length
  if standsForItself kind ∧ placed.length = 1 then
    match placed with
    | shape :: _ => fit shape value
    | [] => return none
  else
    let names := (← placedNames kind).take placed.length ++ names
    if names.length < shapes.length then
      Eval.typeFault ((← Kinds.nameOfKind kind) ++ "() accepts fewer positional sub-patterns")
    let found ← names.mapM fun name => Routine.found? value name
    if found.any Option.isNone then return none
    allFit fit ((placed ++ named).zip (found.filterMap id))

/-- What the names in a shape stand for if a value fits it. -/
def fits? (scopes : List Nat) : (fuel : Nat) → Shape → Value → Eval (Option Bindings)
  | 0, _, _ => throw .exhausted
  | fuel + 1, shape, value => do
      let fit := fits? scopes fuel
      match shape with
      | .anything name => return some (name.toList.map (·, value))
      | .equal (.constant constant) =>
          let wanted := Expressions.ofConstant constant
          let isSame ←
            match constant with
            | .nothing | .truth _ => pure (Protocol.isSame value wanted)
            | _ => Evaluator.equal value wanted
          return if isSame then some [] else none
      | .equal expression =>
          let wanted ← Evaluator.evaluate scopes expression
          return if ← Evaluator.equal value wanted then some [] else none
      | .sequence shapes =>
          match ← row? value with
          | some values => rowFits fit shapes values
          | none => return none
      | .rest _ => return none
      | .mapping keys shapes rest =>
          match ← Kinds.core value with
          | .dictionary address =>
              let keys ← keys.mapM (Evaluator.evaluate scopes)
              mappingFits fit (← Eval.entriesAt address) keys shapes rest
          | _ => return none
      | .family family shapes names =>
          familyFits fit (← Evaluator.evaluate scopes family) value shapes names
      | .either shapes => anyFits fit value shapes
      | .bound shape name =>
          return (← fit shape value).map fun bindings => bindings ++ [(name, value)]

def deepestShape : Nat := 1000

def chosen (scopes : List Nat) (value : Value) : List Choice → Eval (List Statement)
  | [] => return []
  | .mk shape guard body :: choices => do
      match ← fits? scopes deepestShape shape value with
      | none => chosen scopes value choices
      | some bindings =>
          bindings.forM fun (name, value) => Scopes.assign scopes name value
          match guard with
          | none => return body
          | some condition =>
              if ← Protocol.isTrue (← Evaluator.evaluate scopes condition) then return body
              else chosen scopes value choices

end Shapes

end BuiltinWrappers.Script.Indented
