import BuiltinWrappers.Script.Indented.Shapes

/-!
# Statements that bind names

Assigning, deleting, loading libraries, and defining functions and families.
-/

namespace BuiltinWrappers.Script.Indented

variable [Evaluator]

namespace Definitions

/-! ## Assigning and deleting -/

def assign (scopes : List Nat) (target : Expression) (value : Value) : Eval PUnit :=
  Expressions.assign scopes Reading.deepestTarget target value

/-- Change what a target stands for by an operator; its parts are evaluated once. -/
def augment (scopes : List Nat) (target : Expression) (operator : BinaryOperator)
    (value : Expression) : Eval PUnit := do
  let evaluate := Evaluator.evaluate scopes
  match target with
  | .element object index =>
      let object ← evaluate object
      let index ← evaluate index
      let before ← Elements.element object index
      Elements.setElement object index (← Operators.augmented operator before (← evaluate value))
  | .member object name =>
      let object ← evaluate object
      let before ← Attributes.lookUp object name
      Attributes.setAttribute object name
        (← Operators.augmented operator before (← evaluate value))
  | target =>
      let before ← evaluate target
      assign scopes target (← Operators.augmented operator before (← evaluate value))

def delete (scopes : List Nat) (target : Expression) : Eval PUnit := do
  match target with
  | .name name => Scopes.remove scopes name
  | .element object index =>
      let object ← Evaluator.evaluate scopes object
      Elements.removeElement object (← Evaluator.evaluate scopes index)
  | .member object name =>
      Attributes.removeAttribute (← Evaluator.evaluate scopes object) name
  | _ => Eval.fail "SyntaxError" "cannot delete expression"

def annotationsName : String := "__annotations__"

def annotate (scopes : List Nat) (target hint : Expression) : Eval PUnit := do
  let scope? ←
    match scopes with
    | address :: _ => Eval.scopeAt? address
    | [] => pure none
  match target, scope?, scopes with
  | .name name, some scope, address :: _ =>
      if scope.level ≠ .function then
        let value ← Evaluator.evaluate scopes hint
        let entries ←
          match scope.entries.lookup annotationsName with
          | some (.dictionary found) => pure found
          | _ =>
              let found ← Eval.allocate (.dictionary [])
              Scopes.put address annotationsName (.dictionary found)
              pure found
        Eval.putEntries entries
          (← Protocol.insert (.ofString name) value (← Eval.entriesAt entries))
  | _, _, _ => pure ()

/-! ## Functions -/

def fullName (scopes : List Nat) (name : String) : Eval (Option String) := do
  match scopes with
  | address :: _ =>
      match (← Eval.scopeAt? address).bind Scope.subject, (← Eval.scopeAt? address) with
      | some (.text front), some { level := .family, .. } =>
          return some (String.ofList front ++ "." ++ name)
      | _, _ => return none
  | [] => return none

def annotations (scopes : List Nat) (definition : Definition) :
    Eval (List (Value × Value)) := do
  let found ← definition.parameters.mapM fun parameter => do
    match parameter with
    | .mk name _ _ (some hint) =>
        return [(.ofString name, ← Evaluator.evaluate scopes hint)]
    | _ => return []
  let ofResult ← definition.hint.toList.mapM fun hint => do
    return (.ofString "return", ← Evaluator.evaluate scopes hint)
  return found.flatten ++ ofResult

def function (scopes : List Nat) (definition : Definition) : Eval Value := do
  let defaults ← Expressions.defaults scopes definition.parameters
  let annotations ← annotations scopes definition
  let fullName ← fullName scopes definition.name
  let named := (fullName.toList.map fun name => ("__qualname__", .ofString name))
  let annotated ←
    if annotations.isEmpty then pure []
    else pure [(annotationsName, ← Eval.newDictionary annotations)]
  return .closure (← Eval.allocate (.closure {
    name := definition.name, parameters := definition.parameters, body := definition.body
    names := definition.names, defaults, scopes, attributes := named ++ annotated }))

def decorated (decorators : List Value) (value : Value) : Eval Value :=
  decorators.reverse.foldlM (fun value decorator => Protocol.call decorator [value]) value

/-! ## Families -/

def made (order : Value) (name : String) (parents : List Value)
    (attributes : List (String × Value)) (named : List (String × Value)) : Eval Value := do
  let isPlain : Bool :=
    match order with
    | .kind "type" => true
    | _ => false
  if isPlain then Families.newFamily order name parents attributes named
  else
    let entries ← Eval.newDictionary (Eval.namedEntries attributes)
    Evaluator.call order { plain := [.ofString name, .tuple parents, entries], named }

def parentsOf (all : List Value) (value : Value) : Eval (List Value) := do
  if value.isKind then return [value]
  match ← Attributes.lookUp? value "__mro_entries__" with
  | some function => Protocol.items (← Protocol.call function [.tuple all])
  | none => Eval.typeFault ("bases must be types, not " ++ (← Kinds.nameOf value))

def family (scopes : List Nat) (given : List Argument) (definition : Definition) :
    Eval Value := do
  let arguments ← Expressions.arguments scopes given
  let parents := (← arguments.plain.mapM (parentsOf arguments.plain)).flatten
  let name := definition.name
  let title := (← fullName scopes name).getD name
  let address ← Eval.allocate (.scope {
    level := .family, names := definition.names, subject := some (.ofString title) })
  match Attributes.explanation definition.body with
  | .nothing => pure ()
  | text => Scopes.put address "__doc__" text
  Evaluator.run (address :: scopes) definition.body
  let attributes := ((← Eval.scopeAt? address).map Scope.entries).getD []
  let wanted := (arguments.named.lookup "metaclass").getD (.kind "type")
  let order ← if wanted.isKind then Families.orderAmong wanted parents else pure wanted
  let family ← made order name parents attributes
    (arguments.named.filter (·.1 ≠ "metaclass"))
  Eval.put address (.scope { level := .family, subject := some family })
  return family

/-! ## Libraries -/

def wholeName (scopes : List Nat) (level : Nat) (library : String) : Eval String := do
  if level = 0 then return library
  match ← Scopes.shared? scopes "__package__" with
  | some (.text package) =>
      let parts := (String.ofList package).splitOn "."
      let kept := parts.take (parts.length + 1 - level)
      if package.isEmpty ∨ kept.isEmpty then refuse
      return ".".intercalate (kept ++ if library.isEmpty then [] else [library])
  | _ => refuse
where
  refuse {α : Type} : Eval α :=
    Eval.fail "ImportError" "attempted relative import with no known parent package"

def offeredNames (library : Value) : Eval (List String) := do
  match ← Attributes.lookUp? library "__all__" with
  | some names =>
      (← Protocol.items names).mapM fun name => do return String.ofList (← Protocol.needText name)
  | none =>
      match library with
      | .library address =>
          let entries := ((← Eval.libraryScope? address).map Scope.entries).getD []
          return (entries.map Prod.fst).filter fun name => name.toList.head? ≠ some '_'
      | _ => return []

def taken (library : Value) (path name : String) : Eval Value := do
  match ← Attributes.lookUp? library name with
  | some value => return value
  | none =>
      try Evaluator.loadLibrary (path ++ "." ++ name)
      catch
        | .fault fault =>
            if ← Protocol.isFaultOf "ImportError" fault then
              Eval.fail "ImportError" ("cannot import name '" ++ name ++ "' from '" ++ path ++
                "' (unknown location)")
            throw (.fault fault)
        | leap => throw leap

def loadFrom (scopes : List Nat) (level : Nat) (library : String)
    (entries : List (String × String)) : Eval PUnit := do
  let path ← wholeName scopes level library
  let found ← Evaluator.loadLibrary path
  entries.forM fun (name, original) => do
    if original = "*" then
      (← offeredNames found).forM fun name => do
        Scopes.assign scopes name (← taken found path name)
    else Scopes.assign scopes name (← taken found path original)

def load (scopes : List Nat) (name library : String) (wholePath : Bool) : Eval PUnit := do
  let found ← Evaluator.loadLibrary library
  if wholePath ∨ name = library then Scopes.assign scopes name found
  else Scopes.assign scopes name (← Evaluator.loadLibrary name)

end Definitions

end BuiltinWrappers.Script.Indented
