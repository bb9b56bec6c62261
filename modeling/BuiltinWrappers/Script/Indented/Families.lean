import BuiltinWrappers.Script.Indented.Making

/-!
# Families and their members

A family is made of a name, its parents and what its body defines.  A member gets
its value of a predefined kind first, if its family has one at its core, and is
then made ready by the family.
-/

namespace BuiltinWrappers.Script.Indented

variable [Evaluator]

namespace Families

/-! ## Making families -/

def orderAmong (order : Value) : List Value → Eval Value
  | [] => return order
  | parent :: parents => do
      let other ← Kinds.kindOf parent
      let narrower ← Kinds.isWithin order other
      orderAmong (if narrower then other else order) parents

def tellNames (family : Value) (attributes : List (String × Value)) : Eval PUnit :=
  attributes.forM fun (name, value) => do
    let _ ← Protocol.answer? value "__set_name__" [family, .ofString name]

def markedFunction (name : String) (value : Value) : Value :=
  match name, value with
  | "__new__", .closure address => .detached (.closure address)
  | "__init_subclass__", .closure address | "__class_getitem__", .closure address =>
      .ofFamily (.closure address)
  | _, value => value

def withKeyRule (attributes : List (String × Value)) : List (String × Value) :=
  if (attributes.lookup "__eq__").isSome ∧ (attributes.lookup "__hash__").isNone then
    attributes ++ [("__hash__", .nothing)]
  else attributes

def newFamily (order : Value) (name : String) (parents : List Value)
    (attributes : List (String × Value)) (named : List (String × Value)) : Eval Value := do
  let parents := if parents.isEmpty then [.kind "object"] else parents
  match ← Kinds.orderOf? parents with
  | none =>
      Eval.typeFault "Cannot create a consistent method resolution order (MRO) for bases"
  | some above =>
      let attributes := withKeyRule
        (attributes.map fun (name, value) => (name, markedFunction name value))
      let address ← Eval.allocate (.family {
        name, parents, attributes, ancestry := [], order })
      let family : Value := .family address
      Eval.put address (.family { name, parents, attributes, ancestry := family :: above, order })
      tellNames family attributes
      match ← Kinds.found? "__init_subclass__" above with
      | some (.ofFamily function) =>
          let _ ← Evaluator.call function { plain := [family], named }
      | _ => pure ()
      return family

def newFamilyOf (order : Value) (arguments : Arguments) : Eval Value := do
  match arguments.plain with
  | [.text name, .tuple parents, .dictionary entries] =>
      let attributes := Eval.entriesByName (← Eval.entriesAt entries)
      newFamily order (String.ofList name) parents attributes arguments.named
  | [.text name, .tuple parents, other] =>
      match ← Kinds.core other with
      | .dictionary entries =>
          let attributes := Eval.entriesByName (← Eval.entriesAt entries)
          newFamily order (String.ofList name) parents attributes arguments.named
      | _ => Eval.typeFault "type.__new__() argument 3 must be dict"
  | _ => Eval.typeFault "type() takes 1 or 3 arguments"

/-! ## Making members -/

def isFilledLater (kind : String) : Bool :=
  ["list", "dict", "set", "bytearray"].contains kind

def newMember (family : Value) (arguments : Arguments) : Eval Value := do
  match ← Kinds.coreKind? family with
  | none => Eval.newEntity { kind := family }
  | some "type" => newFamilyOf family arguments
  | some kind =>
      if Eval.isFaultKind kind then Eval.newFaultOf family kind arguments.plain
      else if isFilledLater kind then
        let core ← Making.make kind {}
        Eval.newEntity { kind := family, core := some core }
      else
        let core ← Making.make kind arguments
        Eval.newEntity { kind := family, core := some core }

/-- Make a member ready that its family does not make ready in its own way. -/
def makeReady (object : Value) (arguments : Arguments) : Eval PUnit := do
  match object with
  | .entity address =>
      let entity ← Eval.entityAt address
      match entity.core with
      | some (.list inner) =>
          let values ←
            match arguments.plain.head? with
            | some value => Protocol.items value
            | none => pure []
          Eval.put inner (.list values)
      | some (.set inner) =>
          let values ←
            match arguments.plain.head? with
            | some value => Protocol.items value
            | none => pure []
          Eval.put inner (.set (← Protocol.distinct values))
      | some (.dictionary inner) =>
          let more ← Methods.givenEntries arguments
          Eval.putEntries inner (← Protocol.insertAll (← Eval.entriesAt inner) more)
      | some _ => pure ()
      | none =>
          if ← Protocol.isFaultOf "BaseException" object then
            let isSystem ← Protocol.isFaultOf "OSError" object
            if !isSystem ∨ arguments.plain.length < 2 then
              Eval.put address (.entity { entity with
                attributes := Attributes.withEntry entity.attributes "args"
                  (.tuple arguments.plain) })
  | _ => pure ()

def missingMethods (family : Value) : Eval (List String) := do
  let above ← Kinds.ancestry family
  let isStrict ← (← Kinds.ancestry (← Kinds.kindOf family)).anyM fun kind => do
    return (← Kinds.nameOfKind kind) = "ABCMeta"
  if !isStrict then return []
  let names ← above.mapM fun kind => do
    match kind with
    | .family address =>
        return ((← Eval.familyAt? address).map Family.attributes).getD []
    | _ => return []
  let names := (names.flatten.map Prod.fst).eraseDups
  names.filterM fun name => do
    let function :=
      match ← Kinds.found? name above with
      | some (.accessor function _ _) | some (.detached function) | some (.ofFamily function) =>
          some function
      | found => found
    match function with
    | some (.closure address) =>
        match ← Eval.object? address with
        | some (.closure closure) =>
            return (closure.attributes.lookup "__isabstractmethod__").isSome
        | _ => return false
    | _ => return false

/-- Make a member of a family and make it ready. -/
def makeMember (family : Value) (arguments : Arguments) : Eval Value := do
  let missing ← missingMethods family
  if !missing.isEmpty then
    Eval.typeFault ("Can't instantiate abstract class " ++ (← Kinds.nameOfKind family) ++
      " with abstract methods " ++ ", ".intercalate missing)
  let maker? ← Kinds.ownAttribute? family "__new__"
  let initializer? ← Kinds.ownAttribute? family "__init__"
  let object ←
    match maker? with
    | some (.detached function) | some function =>
        Evaluator.call function { arguments with plain := family :: arguments.plain }
    | none =>
        if initializer?.isNone ∧ (← Kinds.coreKind? family).isNone ∧
            !(arguments.plain.isEmpty ∧ arguments.named.isEmpty) then
          Eval.typeFault ((← Kinds.nameOfKind family) ++ "() takes no arguments")
        newMember family arguments
  if !(← Kinds.isWithin family (← Kinds.kindOf object)) then return object
  match initializer? with
  | some function =>
      let kind ← Kinds.kindOf object
      match ← Evaluator.call (Kinds.attached object kind function) arguments with
      | .nothing => pure ()
      | value =>
          Eval.typeFault ("__init__() should return None, not '" ++ (← Kinds.nameOf value) ++ "'")
  | none => if maker?.isNone then makeReady object arguments
  return object

def call (family : Value) (arguments : Arguments) : Eval Value := do
  match ← Kinds.special? family "__call__" with
  | some function => Evaluator.call function arguments
  | none => makeMember family arguments

/-! ## Belonging -/

def isChannelOf (channel : Channel) (name : String) : Bool :=
  let isMemory : Bool := channel.goal = .memory
  name = "object" || name = "IOBase" ||
    (if channel.isBinary then
      name = "BufferedIOBase" || (isMemory && name = "BytesIO") ||
        (!isMemory && (if channel.isWritable then name = "BufferedWriter"
          else name = "BufferedReader"))
    else name = "TextIOBase" || (!isMemory && name = "TextIOWrapper") ||
      (isMemory && name = "StringIO"))

def isInstanceOf (value kind : Value) : Eval Bool := do
  match kind with
  | .kind name =>
      match value, name with
      | .channel address, _ =>
          return (← Channel.any? address).any (isChannelOf · name)
      | .kind _, "type" | .family _, "type" => return true
      | _, _ => Kinds.isWithin kind (← Kinds.kindOf value)
  | .family _ =>
      match ← Kinds.special? kind "__instancecheck__" with
      | some function => Protocol.isTrue (← Protocol.call function [value])
      | none => Kinds.isWithin kind (← Kinds.kindOf value)
  | .nothing => return Protocol.isSame value .nothing
  | _ => Eval.typeFault "isinstance() arg 2 must be a type, a tuple of types, or a union"

def isInstance : (fuel : Nat) → (value kind : Value) → Eval Bool
  | 0, _, _ => return false
  | fuel + 1, value, kind => do
      match kind with
      | .tuple kinds => kinds.anyM (isInstance fuel value)
      | kind => isInstanceOf value kind

def deepestKinds : Nat := 20

def isSubfamily : (fuel : Nat) → (family kind : Value) → Eval Bool
  | 0, _, _ => return false
  | fuel + 1, family, kind => do
      match kind with
      | .tuple kinds => kinds.anyM (isSubfamily fuel family)
      | kind =>
          if !family.isKind then Eval.typeFault "issubclass() arg 1 must be a class"
          match ← Kinds.special? kind "__subclasscheck__" with
          | some function => Protocol.isTrue (← Protocol.call function [family])
          | none => Kinds.isWithin kind family

end Families

end BuiltinWrappers.Script.Indented
