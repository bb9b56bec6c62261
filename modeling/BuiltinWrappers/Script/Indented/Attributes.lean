import BuiltinWrappers.Script.Indented.Protocol

/-!
# Attributes

What a value has under a name.  An attribute of an object is looked for in the
object and in its family; functions of a family become methods, and accessors are
asked for what they give.
-/

namespace BuiltinWrappers.Script.Indented

open Text (Octets)

variable [Evaluator]

namespace Attributes

/-! ## Attributes of predefined kinds -/

def explanation (body : List Statement) : Value :=
  match body with
  | .expression (.constant (.text characters)) :: _ => .text characters
  | _ => .nothing

def closureAttribute? (object : Value) (closure : Closure) (address : Nat) (name : String) :
    Option Value :=
  match closure.attributes.lookup name with
  | some value => some value
  | none =>
      match name with
      | "__name__" | "__qualname__" => some (.ofString closure.name)
      | "__doc__" => some (explanation closure.body)
      | "__module__" => some (.ofString "__main__")
      | "__dict__" => some (.dictionary address)
      | "__defaults__" =>
          some (if closure.defaults.isEmpty then .nothing
            else .tuple (closure.defaults.map Prod.snd))
      | "__annotations__" | "__kwdefaults__" => some .nothing
      | "__call__" => some object
      | "__get__" => some (.method object name)
      | _ => none

def octetChannel (address : Nat) (channel : Channel) : Eval Value := do
  if address = Place.output then return .channel Place.outputOctets
  if channel.isBinary then return .channel address
  Channel.flush address
  return .channel (← Eval.allocate (.channel { channel with
    isBinary := true, isDirect := channel.isWritable, pending := [] }))

def channelAttribute? (address : Nat) (name : String) : Eval (Option Value) := do
  match ← Channel.any? address with
  | none => return none
  | some channel =>
      match name with
      | "name" => return some channel.shownName
      | "mode" => return some (.ofString channel.mode)
      | "closed" => return some (.truth channel.isClosed)
      | "encoding" =>
          return if channel.isBinary then none else some (.ofString channel.encoding)
      | "errors" => return some (.ofString channel.handling)
      | "newlines" => return some .nothing
      | "line_buffering" => return some (.truth channel.isByLine)
      | "buffer" =>
          if channel.isBinary then return none else return some (← octetChannel address channel)
      | _ => return none

def libraryAttribute? (address : Nat) (name : String) : Eval (Option Value) := do
  match ← Eval.object? address with
  | some (.library library scope) =>
      match ((← Eval.scopeAt? scope).map Scope.entries).bind (·.lookup name) with
      | some value => return some value
      | none =>
          match name with
          | "__name__" => return some (.ofString library)
          | "__dict__" => return some (.dictionary scope)
          | _ => return none
  | _ => return none

/-- Attributes of values that cannot change. -/
def valueAttribute? (object : Value) (name : String) : Option Value :=
  match object, name with
  | .integer _, "real" | .integer _, "numerator" | .real _, "real" => some object
  | .integer _, "imag" => some (.integer 0)
  | .integer _, "denominator" => some (.integer 1)
  | .real _, "imag" => some (.real 0.0)
  | .range start _ _, "start" => some (.integer start)
  | .range _ stop _, "stop" => some (.integer stop)
  | .range _ _ step, "step" => some (.integer step)
  | .slice start _ _, "start" => some start
  | .slice _ stop _, "stop" => some stop
  | .slice _ _ step, "step" => some step
  | .accessor reader _ _, "fget" => some reader
  | .accessor _ writer _, "fset" => some writer
  | .detached function, "__func__" | .ofFamily function, "__func__"
  | .detached function, "__wrapped__" | .ofFamily function, "__wrapped__" => some function
  | .bound object _, "__self__" | .method object _, "__self__" => some object
  | .bound _ function, "__func__" => some function
  | .method _ name, "__name__" | .method _ name, "__qualname__" => some (.ofString name)
  | .routine name, "__name__" | .routine name, "__qualname__" =>
      some (.ofString ((name.splitOn ".").getLastD name))
  | .kind kind, "__name__" | .kind kind, "__qualname__" => some (.ofString kind)
  | .kind _, "__module__" => some (.ofString "builtins")
  | .kind "list", "__hash__" | .kind "dict", "__hash__" | .kind "set", "__hash__"
  | .kind "bytearray", "__hash__" | .kind "slice", "__hash__" => some .nothing
  | .kind "object", "__bases__" => some (.tuple [])
  | .kind kind, "__bases__" =>
      some (.tuple (((Kinds.plainAncestry kind).drop 1).take 1 |>.map .kind))
  | .kind kind, "__mro__" => some (.tuple ((Kinds.plainAncestry kind).map .kind))
  | .generator _, "__name__" => some (.ofString "generator")
  | _, "__doc__" => some .nothing
  | _, _ => none

/-! ## Objects and families -/

def given (object kind found : Value) : Eval Value := do
  match found with
  | .accessor .nothing _ _ => Eval.fail "AttributeError" "unreadable attribute"
  | .accessor reader _ _ => Protocol.call reader [object]
  | found =>
      match ← Kinds.special? found "__get__" with
      | some function => Protocol.call function [object, kind]
      | none => return Kinds.attached object kind found

def isAccessor (found : Value) : Eval Bool := do
  match found with
  | .accessor _ _ _ => return true
  | found => return (← Kinds.special? found "__set__").isSome

def entityAttribute? (object : Value) (address : Nat) (name : String) :
    Eval (Option Value) := do
  let entity ← Eval.entityAt address
  let kind := entity.kind
  let inFamily ← Kinds.familyAttribute? kind name
  let own := entity.attributes.lookup name
  match own, inFamily with
  | none, some found => return some (← given object kind found)
  | some value, some found =>
      if ← isAccessor found then return some (← given object kind found)
      return some value
  | some value, none => return some value
  | none, none =>
      match name with
      | "__class__" => return some kind
      | "__dict__" => return some (.dictionary address)
      | "__doc__" | "__cause__" | "__context__" | "__traceback__" => return some .nothing
      | "__module__" => return some (.ofString "__main__")
      | _ =>
          match entity.core.bind fun core => valueAttribute? core name with
          | some value => return some value
          | none =>
              match ← Kinds.special? object "__getattr__" with
              | some function => return some (← Protocol.call function [.ofString name])
              | none => return none

def isMaker (name : String) : Bool :=
  ["fromkeys", "maketrans", "fromhex", "from_bytes"].contains name

def familyAttribute? (object : Value) (address : Nat) (name : String) :
    Eval (Option Value) := do
  match ← Eval.familyAt? address with
  | none => return none
  | some family =>
      match ← Kinds.found? name family.ancestry with
      | some (.ofFamily function) => return some (.bound object function)
      | some (.detached function) => return some function
      | some (.method kind name) =>
          return some (if isMaker name then .method object name else .method kind name)
      | some found =>
          match found with
          | .entity _ =>
              match ← Kinds.special? found "__get__" with
              | some function => return some (← Protocol.call function [.nothing, object])
              | none => return some found
          | found => return some found
      | none =>
          match ← Kinds.ownAttribute? family.order name with
          | some found => return some (← given object family.order found)
          | none =>
              match name with
              | "__name__" | "__qualname__" => return some (.ofString family.name)
              | "__mro__" => return some (.tuple family.ancestry)
              | "__bases__" => return some (.tuple family.parents)
              | "__dict__" => return some (.dictionary address)
              | "__module__" => return some (.ofString "__main__")
              | "__class__" => return some family.order
              | "__doc__" => return some .nothing
              | "__annotations__" => return some (← Eval.newDictionary [])
              | "mro" | "__subclasses__" => return some (.method object name)
              | _ =>
                  match ← Kinds.special? object "__getattr__" with
                  | some function => return some (← Protocol.call function [.ofString name])
                  | none => return none

def superiorAttribute? (family object : Value) (name : String) : Eval (Option Value) := do
  let kind ← if object.isKind then pure object else Kinds.kindOf object
  let above := ((← Kinds.ancestry kind).dropWhile (!·.isSameKind family)).drop 1
  match ← Kinds.found? name above with
  | none => return none
  | some (.method kind "__new__") => return some (.method kind "__new__")
  | some found =>
      if object.isKind then
        match found with
        | .ofFamily function => return some (.bound object function)
        | .detached function => return some function
        | .method kind name =>
            return some (if isMaker name then .method object name else .method kind name)
        | .closure _ =>
            let order ← Kinds.kindOf object
            return some (if order.isSameKind (.kind "type") ∨ name = "__new__" then found
              else .bound object found)
        | found => return some found
      else return some (← given object kind found)

/-! ## Looking up, setting and removing -/

/-- What a value has under a name. -/
def lookUp? (object : Value) (name : String) : Eval (Option Value) := do
  match object with
  | .entity address => entityAttribute? object address name
  | .family address => familyAttribute? object address name
  | .superior family inner => superiorAttribute? family inner name
  | .library address => libraryAttribute? address name
  | .closure address =>
      match ← Eval.object? address with
      | some (.closure closure) => return closureAttribute? object closure address name
      | _ => return none
  | .bound _ function =>
      match valueAttribute? object name, function with
      | some value, _ => if name ≠ "__doc__" then return some value else inner function
      | none, function => inner function
  | .kind kind =>
      match valueAttribute? object name with
      | some value => return some value
      | none =>
          if name = "__class__" then return some (.kind "type")
          if name = "mro" then return some (.method object name)
          return (← Kinds.found? name (← Kinds.ancestry object)).map fun found =>
            if isMaker name then .method (.kind kind) name else found
  | object =>
      if let .channel address := object then
        if let some value := ← channelAttribute? address name then return some value
      match valueAttribute? object name with
      | some value => return some value
      | none =>
          let kind := object.plainKind
          if Kinds.hasMethod kind name ∨ Kinds.commonMethods.contains name then
            return some (.method object name)
          if name = "__class__" then return some (.kind kind)
          return none
where
  inner (function : Value) : Eval (Option Value) := do
    match function with
    | .closure address =>
        match ← Eval.object? address with
        | some (.closure closure) =>
            return closureAttribute? function closure address name
        | _ => return none
    | function => return valueAttribute? function name

def missing {α : Type} (object : Value) (name : String) : Eval α := do
  match object with
  | .family _ | .kind _ =>
      Eval.fail "AttributeError" ("type object '" ++ (← Kinds.nameOfKind object) ++
        "' has no attribute '" ++ name ++ "'")
  | .library address =>
      let library ←
        match ← Eval.object? address with
        | some (.library library _) => pure library
        | _ => pure "?"
      Eval.fail "AttributeError" ("module '" ++ library ++ "' has no attribute '" ++ name ++ "'")
  | object =>
      Eval.fail "AttributeError" ("'" ++ (← Kinds.nameOf object) ++
        "' object has no attribute '" ++ name ++ "'")

def lookUp (object : Value) (name : String) : Eval Value := do
  match ← lookUp? object name with
  | some value => return value
  | none => missing object name

def callMethod (object : Value) (name : String) (values : List Value) : Eval Value := do
  Protocol.call (← lookUp object name) values

def withEntry (entries : List (String × Value)) (name : String) (value : Value) :
    List (String × Value) :=
  if entries.any (·.1 = name) then
    entries.map fun entry => if entry.1 = name then (name, value) else entry
  else entries ++ [(name, value)]

/-- Give an object an attribute of its own, whatever its family says. -/
def setOwn (object : Value) (name : String) (value : Value) : Eval PUnit := do
  match object with
  | .entity address =>
      let entity ← Eval.entityAt address
      if name = "__class__" then Eval.put address (.entity { entity with kind := value })
      else
        Eval.put address
          (.entity { entity with attributes := withEntry entity.attributes name value })
  | .family address =>
      if let some family := ← Eval.familyAt? address then
        let family :=
          match name, value with
          | "__name__", .text characters => { family with name := String.ofList characters }
          | _, _ => { family with attributes := withEntry family.attributes name value }
        Eval.put address (.family family)
  | .closure address =>
      match ← Eval.object? address with
      | some (.closure closure) =>
          Eval.put address
            (.closure { closure with attributes := withEntry closure.attributes name value })
      | _ => pure ()
  | .library address =>
      match ← Eval.object? address with
      | some (.library _ scope) =>
          if let some inner := ← Eval.scopeAt? scope then
            Eval.put scope (.scope { inner with entries := withEntry inner.entries name value })
      | _ => pure ()
  | .kind kind =>
      Eval.typeFault ("cannot set '" ++ name ++ "' attribute of immutable type '" ++ kind ++ "'")
  | object =>
      Eval.fail "AttributeError" ("'" ++ (← Kinds.nameOf object) ++
        "' object has no attribute '" ++ name ++ "'")

/-- Set an attribute as an object is wont to, unless it has its own way of doing that. -/
def setPlainly (object : Value) (name : String) (value : Value) : Eval PUnit := do
  match object with
  | .entity address =>
      match ← Kinds.ownAttribute? (← Eval.entityAt address).kind name with
      | some (.accessor _ .nothing _) =>
          Eval.fail "AttributeError" ("property '" ++ name ++ "' of '" ++
            (← Kinds.nameOf object) ++ "' object has no setter")
      | some (.accessor _ writer _) =>
          let _ ← Protocol.call writer [object, value]
      | some found =>
          match ← Kinds.special? found "__set__" with
          | some function => let _ ← Protocol.call function [object, value]
          | none => setOwn object name value
      | none => setOwn object name value
  | object => setOwn object name value

def setAttribute (object : Value) (name : String) (value : Value) : Eval PUnit := do
  match ← Kinds.special? object "__setattr__" with
  | some function => let _ ← Protocol.call function [.ofString name, value]
  | none => setPlainly object name value

def removePlainly (object : Value) (name : String) : Eval PUnit := do
  let without (entries : List (String × Value)) : Eval (List (String × Value)) := do
    if !entries.any (·.1 = name) then missing object name
    return entries.filter (·.1 ≠ name)
  match object with
  | .entity address =>
      let entity ← Eval.entityAt address
      match ← Kinds.ownAttribute? entity.kind name with
      | some (.accessor _ _ .nothing) =>
          Eval.fail "AttributeError" ("property '" ++ name ++ "' has no deleter")
      | some (.accessor _ _ remover) => let _ ← Protocol.call remover [object]
      | _ => Eval.put address (.entity { entity with attributes := ← without entity.attributes })
  | .family address =>
      if let some family := ← Eval.familyAt? address then
        Eval.put address (.family { family with attributes := ← without family.attributes })
  | .closure address =>
      match ← Eval.object? address with
      | some (.closure closure) =>
          Eval.put address (.closure { closure with attributes := ← without closure.attributes })
      | _ => pure ()
  | .library address =>
      match ← Eval.object? address with
      | some (.library _ scope) =>
          if let some inner := ← Eval.scopeAt? scope then
            Eval.put scope (.scope { inner with entries := ← without inner.entries })
      | _ => pure ()
  | object => missing object name

def removeAttribute (object : Value) (name : String) : Eval PUnit := do
  match ← Kinds.special? object "__delattr__" with
  | some function => let _ ← Protocol.call function [.ofString name]
  | none => removePlainly object name

end Attributes

end BuiltinWrappers.Script.Indented
