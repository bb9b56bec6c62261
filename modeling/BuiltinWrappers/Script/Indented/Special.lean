import BuiltinWrappers.Script.Indented.Families

/-!
# Methods behind syntax

What predefined kinds do for signs and other syntax can also be called by name.
A family does so when it adds to what its parents do, so its own answers are not
asked for again.
-/

namespace BuiltinWrappers.Script.Indented

open Text (Octets)

variable [Evaluator]

namespace Special

/-! ## Numbers that stand for values -/

def hashModulus : Int := Int.pow 2 61 - 1

def hashOfCore : (fuel : Nat) → Value → Eval Int
  | 0, _ => return 0
  | fuel + 1, value => do
      match value with
      | .text characters | .bytes characters =>
          return characters.foldl (fun hash character =>
            (hash * 1000003 + character.toNat) % hashModulus) 7
      | .tuple values =>
          let hashes ← values.mapM (hashOfCore fuel)
          return hashes.foldl (fun hash inner => (hash * 31 + inner + 11) % hashModulus) 5
      | .real number =>
          match Floating.quotient? number with
          | some (numerator, 1) => return Int.tmod numerator hashModulus
          | some (numerator, denominator) => return (numerator * 31 + denominator) % hashModulus
          | none => return 314159
      | .nothing => return 8765
      | value =>
          match value.asInteger?, value.address? with
          | some number, _ =>
              let size := Int.tmod number hashModulus
              return if size = -1 then -2 else size
          | none, some address => return 16 * address + 140000
          | none, none => return 1

def hashOf (value : Value) : Eval Value := do
  match ← Kinds.special? value "__hash__" with
  | some function =>
      Protocol.needKey value
      Protocol.call function []
  | none =>
      Protocol.needKey value
      return .integer (← hashOfCore 100 (← Kinds.core value))

/-! ## Objects -/

def textOfObject (object core : Value) : Eval Value := do
  match object, core with
  | .entity _, .entity _ =>
      if ← Protocol.isFaultOf "BaseException" object then
        return .text (← Protocol.faultText object)
      match ← Protocol.answer? object "__repr__" [] with
      | some found => return found
      | none => return .text (← Protocol.shownCore object)
  | _, .text characters => return .text characters
  | _, core => return .text (← Protocol.shownCore core)

def shownObject (object core : Value) : Eval Value := do
  match object, core with
  | .entity _, .entity _ =>
      if ← Protocol.isFaultOf "BaseException" object then
        let details ← Protocol.shownAll (← Protocol.faultDetails object)
        return .text ((← Kinds.nameOf object).toList ++ '(' :: details ++ [')'])
      return .text (← Protocol.shownCore object)
  | _, core => return .text (← Protocol.shownCore core)

def attributeNames (object : Value) : Eval (List String) := do
  let kind ← if object.isKind then pure object else Kinds.kindOf object
  let own ←
    match object with
    | .entity address => pure ((← Eval.entityAt address).attributes.map Prod.fst)
    | .library address =>
        pure (((← Eval.libraryScope? address).map Scope.entries).getD [] |>.map Prod.fst)
    | _ => pure []
  let inherited ← (← Kinds.ancestry kind).mapM fun kind => do
    match kind with
    | .family address =>
        return (((← Eval.familyAt? address).map Family.attributes).getD []).map Prod.fst
    | .kind "object" => return Kinds.commonMethods
    | .kind name => return Kinds.methods name
    | _ => return []
  return ((own ++ inherited.flatten).eraseDups).mergeSort fun one other =>
    !Protocol.lessText other.toList one.toList

/-! ## Methods by name -/

def comparisonOf? (name : String) : Option Comparison :=
  [Comparison.less, .lessEqual, .greater, .greaterEqual].find? (·.method = name)

def operatorOf? (name : String) : Option (BinaryOperator × Bool) :=
  match BinaryOperator.all.find? (·.method = name) with
  | some operator => some (operator, false)
  | none => (BinaryOperator.all.find? (·.turnedMethod = name)).map (·, true)

def isEntity : Value → Bool
  | .entity _ => true
  | _ => false

def equality (object core other : Value) : Eval Value := do
  let otherCore ← Kinds.core other
  if isEntity core then
    return if Protocol.isSame object other then .truth true else .unfit
  return .truth (← Protocol.coresEqual core otherCore)

/-- The method of a predefined kind behind some syntax. -/
def syntaxMethod (object core : Value) (name : String) (arguments : Arguments) :
    Eval Value := do
  let first : Eval Value := arguments.value 0 "object"
  let done (act : Eval PUnit) : Eval Value := do
    act
    return .nothing
  match name with
  | "__init__" => done (Families.makeReady object arguments)
  | "__init_subclass__" => return .nothing
  | "__setattr__" => done do
      Attributes.setPlainly object (String.ofList (← Protocol.needText (← first)))
        (← arguments.value 1 "value")
  | "__delattr__" => done do
      Attributes.removePlainly object (String.ofList (← Protocol.needText (← first)))
  | "__getattribute__" =>
      Attributes.lookUp object (String.ofList (← Protocol.needText (← first)))
  | "__str__" => textOfObject object core
  | "__repr__" => shownObject object core
  | "__format__" =>
      match object, core with
      | .entity _, .entity _ => return .text (← Protocol.textOf object)
      | _, core => return .text (← Forms.formed core (← Protocol.needText (← first)))
  | "__hash__" =>
      return .integer (← hashOfCore 100 (if isEntity core then object else core))
  | "__dir__" => Eval.newList ((← attributeNames object).map .ofString)
  | "__eq__" => equality object core (← first)
  | "__ne__" =>
      match ← equality object core (← first) with
      | .truth result => return .truth (!result)
      | value => return value
  | "__len__" =>
      match ← Protocol.sizeOf? core with
      | some count => return .ofNat count
      | none => Methods.noMethod object name
  | "__getitem__" => Elements.coreElement object core (← first)
  | "__setitem__" => done do
      Elements.setCoreElement object core (← first) (← arguments.value 1 "value")
  | "__delitem__" => done do
      Elements.removeCoreElement object core (← first)
  | "__contains__" => return .truth (← Elements.coreContains core core (← first))
  | "__iter__" => Protocol.iterator core
  | "__next__" =>
      match ← Evaluator.next core with
      | some value => return value
      | none => Eval.raise "StopIteration" []
  | "__reversed__" => Making.reversed core
  | "__call__" => Evaluator.call object arguments
  | "__bool__" => return .truth (← Protocol.isTrue core)
  | "__int__" | "__index__" => return .integer (← Making.integerOf core none)
  | "__float__" => return .real (← Making.realOf core)
  | "__neg__" => Operators.unary .minus core
  | "__pos__" => Operators.unary .plus core
  | "__invert__" => Operators.unary .invert core
  | "__abs__" =>
      match core with
      | .real value => return .real value.abs
      | core => return .integer ((core.asInteger?.getD 0).natAbs)
  | "__iadd__" | "__imul__" =>
      let operator : BinaryOperator := if name = "__iadd__" then .add else .multiply
      match ← Operators.changed? operator core (← first) with
      | some _ => return object
      | none => return .unfit
  | "__enter__" | "__exit__" => Methods.named object core name arguments
  | name =>
      match comparisonOf? name, operatorOf? name with
      | some comparison, _ =>
          if isEntity core then return .unfit
          return .truth (← Protocol.coresCompare comparison core (← Kinds.core (← first)))
      | none, some (operator, turned) =>
          if isEntity core then Methods.noMethod object name
          let other ← Kinds.core (← first)
          if turned then Operators.coresBinary operator other core
          else Operators.coresBinary operator core other
      | none, none => Methods.noMethod object name

def isSyntaxName (name : String) : Bool :=
  "__".toList.isPrefixOf name.toList && "__".toList.isSuffixOf name.toList && name ≠ "__get__"

def onObject (object : Value) (name : String) (arguments : Arguments) : Eval Value := do
  let core ← Kinds.core object
  if isSyntaxName name then syntaxMethod object core name arguments
  else
    match name with
    | "with_traceback" => return object
    | "add_note" =>
        let before ←
          match ← Attributes.lookUp? object "__notes__" with
          | some notes => Protocol.items notes
          | none => pure []
        Attributes.setOwn object "__notes__"
          (← Eval.newList (before ++ [← arguments.value 0 "note"]))
        return .nothing
    | name => Methods.named object core name arguments

def kindMethod (kind : Value) (name : String) : Eval Value := do
  match name with
  | "mro" => Eval.newList (← Kinds.ancestry kind)
  | "__subclasses__" =>
      let machine ← get
      let found := (List.range machine.store.size).filter fun address =>
        match (machine.store[address]? : Option Object) with
        | some (.family family) => family.parents.any (·.isSameKind kind)
        | _ => false
      Eval.newList (found.map .family)
  | name => Methods.noMethod kind name

/-- A method that a kind offers without an object, or on the object that is given first. -/
def onKind (kind : Value) (name : String) (arguments : Arguments) : Eval Value := do
  let core? ← Kinds.coreKind? kind
  let isOctets := core? = some "bytes" ∨ core? = some "bytearray"
  let made (value : Value) : Eval Value := do
    match kind with
    | .family _ => Evaluator.call kind { plain := [value] }
    | _ => return value
  match name with
  | "fromkeys" => made (← Methods.fromKeys arguments)
  | "maketrans" => Texts.newTable isOctets arguments
  | "from_bytes" => made (← Methods.ofOctets arguments)
  | "fromhex" =>
      if isOctets then made (← Texts.method Elements.element true [] name arguments)
      else Eval.typeFault "fromhex"
  | "mro" | "__subclasses__" => kindMethod kind name
  | "__new__" =>
      match arguments.plain with
      | family :: rest =>
          match core? with
          | some "type" => Families.newFamilyOf family { arguments with plain := rest }
          | _ => Families.newMember family { arguments with plain := rest }
      | [] => Eval.typeFault "object.__new__(): not enough arguments"
  | "__init_subclass__" => return .nothing
  | name =>
      match arguments.plain with
      | self :: rest =>
          match self, name with
          | .kind _, "__call__" | .family _, "__call__" =>
              Families.makeMember self { arguments with plain := rest }
          | self, name => onObject self name { arguments with plain := rest }
      | [] =>
          Eval.typeFault ("unbound method " ++ (← Kinds.nameOfKind kind) ++ "." ++ name ++
            "() needs an argument")

def callMethod (object : Value) (name : String) (arguments : Arguments) : Eval Value := do
  match object with
  | .kind _ => onKind object name arguments
  | .family _ =>
      if Attributes.isMaker name ∨ name = "mro" ∨ name = "__subclasses__" then
        onKind object name arguments
      else if name = "__call__" then Families.makeMember object arguments
      else onObject object name arguments
  | object => onObject object name arguments

end Special

end BuiltinWrappers.Script.Indented
