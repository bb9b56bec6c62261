import BuiltinWrappers.Script.Indented.Routine

/-!
# Names in scopes

A name belongs to the innermost scope that binds it.  The names that the body of a
family binds are not seen from the functions in it, and a function looks for the
names that it binds in its own scope alone.
-/

namespace BuiltinWrappers.Script.Indented

namespace Scopes

def predefined? (name : String) : Option Value :=
  let kind := Eval.plainFaultKind name
  if Routine.names.contains name then some (.routine name)
  else if Making.names.contains name then some (.kind name)
  else if Eval.isFaultKind kind ∧ kind ≠ "UnsupportedOperation" then some (.kind kind)
  else
    match name with
    | "NotImplemented" => some .unfit
    | "Ellipsis" => some .ellipsis
    | "__debug__" => some (.truth true)
    | _ => none

def outermost (scopes : List Nat) : Nat := scopes.getLastD Place.globals

def shared? (scopes : List Nat) (name : String) : Eval (Option Value) := do
  return ((← Eval.scopeAt? (outermost scopes)).map Scope.entries).bind (·.lookup name)

def unbound {α : Type} (isInnermost : Bool) (name : String) : Eval α :=
  if isInnermost then
    Eval.fail "UnboundLocalError" ("cannot access local variable '" ++ name ++
      "' where it is not associated with a value")
  else
    Eval.fail "NameError" ("cannot access free variable '" ++ name ++
      "' where it is not associated with a value in enclosing scope")

def lookUp? (name : String) : (isInnermost : Bool) → List Nat → Eval (Option Value)
  | _, [] => return none
  | isInnermost, address :: others => do
      match ← Eval.scopeAt? address with
      | none => lookUp? name false others
      | some scope =>
          if scope.level = .family ∧ !isInnermost then lookUp? name false others
          else
            match scope.entries.lookup name with
            | some value => return some value
            | none =>
                if scope.names.shared.contains name then shared? others name
                else if scope.level = .function ∧ scope.names.owned.contains name then
                  unbound isInnermost name
                else lookUp? name false others

def familyAround? : List Nat → Eval (Option Value)
  | [] => return none
  | address :: others => do
      match ← Eval.scopeAt? address with
      | some scope =>
          match scope.level, scope.subject with
          | .family, some (.family found) => return some (.family found)
          | _, _ => familyAround? others
      | none => familyAround? others

def valueOf (scopes : List Nat) (name : String) : Eval Value := do
  match ← lookUp? name true scopes with
  | some value => return value
  | none =>
      match predefined? name with
      | some value => return value
      | none =>
          if name = "__class__" then
            if let some family := ← familyAround? scopes then return family
          Eval.fail "NameError" ("name '" ++ name ++ "' is not defined")

/-! ## Binding -/

def put (address : Nat) (name : String) (value : Value) : Eval PUnit := do
  if let some scope := ← Eval.scopeAt? address then
    Eval.put address (.scope { scope with
      entries := Attributes.withEntry scope.entries name value })

def owner? (name : String) : List Nat → Eval (Option Nat)
  | [] => return none
  | address :: others => do
      match ← Eval.scopeAt? address with
      | some scope =>
          if scope.level = .function ∧ scope.names.owned.contains name then return some address
          owner? name others
      | none => owner? name others

def goal (scopes : List Nat) (name : String) : Eval Nat := do
  match scopes with
  | [] => return Place.globals
  | address :: others =>
      match ← Eval.scopeAt? address with
      | some scope =>
          if scope.names.shared.contains name then return outermost scopes
          if scope.names.outer.contains name then
            return (← owner? name others).getD address
          return address
      | none => return address

def assign (scopes : List Nat) (name : String) (value : Value) : Eval PUnit := do
  put (← goal scopes name) name value

def withoutInner : List Nat → Eval (List Nat)
  | [] => return []
  | address :: others => do
      match ← Eval.scopeAt? address with
      | some scope =>
          if scope.level = .inner then withoutInner others else return address :: others
      | none => return address :: others

def remove (scopes : List Nat) (name : String) : Eval PUnit := do
  let address ← goal scopes name
  match ← Eval.scopeAt? address with
  | some scope =>
      if !scope.entries.any (·.1 = name) then
        if scope.level = .function then unbound true name
        Eval.fail "NameError" ("name '" ++ name ++ "' is not defined")
      Eval.put address (.scope { scope with entries := scope.entries.filter (·.1 ≠ name) })
  | none => pure ()

def forget (scopes : List Nat) (name : String) : Eval PUnit := do
  let address ← goal scopes name
  if let some scope := ← Eval.scopeAt? address then
    Eval.put address (.scope { scope with entries := scope.entries.filter (·.1 ≠ name) })

/-! ## What a call can ask of its scopes -/

def superior (scopes : List Nat) : Eval Value := do
  let scopes ← withoutInner scopes
  let subject? ←
    match scopes with
    | address :: _ => pure ((← Eval.scopeAt? address).bind Scope.subject)
    | [] => pure none
  match ← familyAround? (scopes.drop 1), subject? with
  | some family, some object => return .superior family object
  | _, _ => Eval.fail "RuntimeError" "super(): no arguments"

def isWritable (name : String) : Bool := name.toList.head? ≠ some '%'

def own (scopes : List Nat) : Eval Value := do
  match ← withoutInner scopes with
  | [address] => return .dictionary address
  | address :: _ =>
      match ← Eval.scopeAt? address with
      | some scope =>
          if scope.level = .family then return .dictionary address
          Eval.newDictionary (Eval.namedEntries (scope.entries.filter (isWritable ·.1)))
      | none => Eval.newDictionary []
  | [] => Eval.newDictionary []

end Scopes

end BuiltinWrappers.Script.Indented
