import BuiltinWrappers.Script.Indented.Scopes

/-!
# Parameters

Which parameter of a function gets which of the values that it is called with.
-/

namespace BuiltinWrappers.Script.Indented

namespace Parameter

def name : Parameter → String
  | .mk name _ _ _ => name

def kind : Parameter → ParameterKind
  | .mk _ kind _ _ => kind

def isPlain (parameter : Parameter) : Bool :=
  parameter.kind = .placed || parameter.kind = .free

def isNamed (parameter : Parameter) : Bool := parameter.kind = .named

end Parameter

namespace Parameters

/-! ## Faults of calls -/

def fullName (closure : Closure) : String :=
  match closure.attributes.lookup "__qualname__" with
  | some (.text characters) => String.ofList characters
  | _ => closure.name

def enumerated (names : List String) : String :=
  let quoted := names.map fun name => "'" ++ name ++ "'"
  match quoted.reverse with
  | [] => ""
  | [one] => one
  | [last, first] => first ++ " and " ++ last
  | last :: others => ", ".intercalate others.reverse ++ ", and " ++ last

def ending (count : Nat) : String := if count = 1 then "" else "s"

def missing {α : Type} (closure : Closure) (sort : String) (names : List String) : Eval α :=
  Eval.typeFault (fullName closure ++ "() missing " ++ Nat.repr names.length ++ " required " ++
    sort ++ " argument" ++ ending names.length ++ ": " ++ enumerated names)

def tooMany {α : Type} (closure : Closure) (given named : Nat) : Eval α :=
  let plain := closure.parameters.filter Parameter.isPlain
  let most := plain.length
  let least := (plain.filter fun parameter =>
    (closure.defaults.lookup parameter.name).isNone).length
  let wanted :=
    if least = most then Nat.repr most else "from " ++ Nat.repr least ++ " to " ++ Nat.repr most
  let found :=
    if named = 0 then Nat.repr given
    else Nat.repr given ++ " positional argument" ++ ending given ++ " (and " ++
      Nat.repr named ++ " keyword-only argument" ++ ending named ++ ")"
  let verb := if given = 1 ∧ named = 0 then " was given" else " were given"
  Eval.typeFault (fullName closure ++ "() takes " ++ wanted ++ " positional argument" ++
    ending most ++ " but " ++ found ++ verb)

/-! ## Binding -/

/-- Give parameters the values that stand for them by name; the others are gathered. -/
def withNamed (closure : Closure) (gathers : Bool) :
    List (String × Value) → (bound : List (String × Value)) → (gathered : List (Value × Value)) →
    Eval (List (String × Value) × List (Value × Value))
  | [], bound, gathered => return (bound, gathered.reverse)
  | (name, value) :: named, bound, gathered => do
      let isFit := closure.parameters.any fun parameter =>
        parameter.name = name && (parameter.kind = .free || parameter.kind = .named)
      if isFit then
        if bound.any (·.1 = name) then
          Eval.typeFault (fullName closure ++ "() got multiple values for argument '" ++ name ++
            "'")
        withNamed closure gathers named ((name, value) :: bound) gathered
      else if gathers then
        withNamed closure gathers named bound ((.ofString name, value) :: gathered)
      else if closure.parameters.any fun parameter =>
          parameter.name = name && parameter.kind = .placed then
        Eval.typeFault (fullName closure ++ "() got some positional-only arguments passed as " ++
          "keyword arguments: '" ++ name ++ "'")
      else
        Eval.typeFault (fullName closure ++ "() got an unexpected keyword argument '" ++ name ++
          "'")

def bound (closure : Closure) (arguments : Arguments) : Eval (List (String × Value)) := do
  let plain := closure.parameters.filter Parameter.isPlain
  let named := closure.parameters.filter Parameter.isNamed
  let gathering := closure.parameters.find? (·.kind = .gathering)
  let gatheringNamed := closure.parameters.find? (·.kind = .gatheringNamed)
  let placed := (plain.map Parameter.name).zip arguments.plain
  let (found, others) ← withNamed closure gatheringNamed.isSome arguments.named placed []
  if gathering.isNone ∧ plain.length < arguments.plain.length then
    let count := (found.filter fun entry => named.any (·.name = entry.1)).length
    tooMany closure arguments.plain.length count
  let isOpen (parameter : Parameter) : Bool :=
    !found.any (·.1 = parameter.name) && (closure.defaults.lookup parameter.name).isNone
  if plain.any isOpen then
    missing closure "positional" ((plain.filter isOpen).map Parameter.name)
  if named.any isOpen then
    missing closure "keyword-only" ((named.filter isOpen).map Parameter.name)
  closure.parameters.mapM fun parameter => do
    let name := parameter.name
    match parameter.kind with
    | .gathering => return (name, .tuple (arguments.plain.drop plain.length))
    | .gatheringNamed => return (name, ← Eval.newDictionary others)
    | _ =>
        let value? := (found.lookup name) <|> closure.defaults.lookup name
        return (name, value?.getD .nothing)

end Parameters

end BuiltinWrappers.Script.Indented
