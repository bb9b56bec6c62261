import BuiltinWrappers.Script.Indented.Value

/-!
# Kinds and families

Every value is of a kind.  Scripts define kinds of their own, called families, each
with the families that it belongs to; what a family does not have itself it takes
from the first of those that has it.
-/

namespace BuiltinWrappers.Script.Indented

namespace Value

/-- The name of the predefined kind that a value is of. -/
def plainKind : Value → String
  | .nothing => "NoneType"
  | .ellipsis => "ellipsis"
  | .unfit => "NotImplementedType"
  | .truth _ => "bool"
  | .integer _ => "int"
  | .real _ => "float"
  | .text _ => "str"
  | .bytes _ => "bytes"
  | .tuple _ => "tuple"
  | .range _ _ _ => "range"
  | .slice _ _ _ => "slice"
  | .kind _ | .family _ => "type"
  | .routine _ => "builtin_function_or_method"
  | .method _ _ => "builtin_function_or_method"
  | .bound _ _ => "method"
  | .accessor _ _ _ => "property"
  | .detached _ => "staticmethod"
  | .ofFamily _ => "classmethod"
  | .superior _ _ => "super"
  | .list _ => "list"
  | .octets _ => "bytearray"
  | .set _ => "set"
  | .frozenSet _ => "frozenset"
  | .dictionary _ => "dict"
  | .view .keys _ => "dict_keys"
  | .view .values _ => "dict_values"
  | .view .entries _ => "dict_items"
  | .closure _ => "function"
  | .entity _ => "object"
  | .iterator _ => "iterator"
  | .generator _ => "generator"
  | .channel _ => "TextIOWrapper"
  | .library _ => "module"

def isSameKind : Value → Value → Bool
  | .kind one, .kind other => one = other
  | .family one, .family other => one = other
  | _, _ => false

def isKind : Value → Bool
  | .kind _ | .family _ => true
  | _ => false

end Value

namespace Kinds

/-! ## Predefined kinds -/

def plainAncestry (kind : String) : List String :=
  if kind = "UnsupportedOperation" then
    ["UnsupportedOperation", "OSError", "ValueError", "Exception", "BaseException", "object"]
  else if Eval.isFaultKind kind then Eval.widerFaults Eval.faultSteps kind ++ ["object"]
  else if kind = "bool" then ["bool", "int", "object"]
  else if kind = "object" then ["object"]
  else [kind, "object"]

def words (text : String) : List String := text.splitOn " "

def textMethods : List String :=
  words ("capitalize casefold center count encode endswith expandtabs find format format_map " ++
    "index isalnum isalpha isascii isdecimal isdigit isidentifier islower isnumeric " ++
    "isprintable isspace istitle isupper join ljust lower lstrip maketrans partition " ++
    "removeprefix removesuffix replace rfind rindex rjust rpartition rsplit rstrip split " ++
    "splitlines startswith strip swapcase title translate upper zfill")

def bytesMethods : List String :=
  words ("capitalize center count decode endswith expandtabs find fromhex hex index isalnum " ++
    "isalpha isascii isdigit islower isspace istitle isupper join ljust lower lstrip maketrans " ++
    "partition removeprefix removesuffix replace rfind rindex rjust rpartition rsplit rstrip " ++
    "split splitlines startswith strip swapcase title translate upper zfill")

def channelMethods : List String :=
  words ("read read1 readline readlines readinto write writelines close flush seek tell " ++
    "truncate fileno isatty readable writable seekable getvalue getbuffer detach reconfigure")

def channelKinds : List String :=
  ["TextIOWrapper", "StringIO", "BytesIO", "FileIO", "BufferedReader", "BufferedWriter",
   "BufferedRandom"]

def widerChannelKinds : List String := ["IOBase", "RawIOBase", "BufferedIOBase", "TextIOBase"]

/-- The methods of a predefined kind that scripts call by name. -/
def methods (kind : String) : List String :=
  if channelKinds.contains kind then channelMethods
  else match kind with
  | "str" => textMethods
  | "bytes" => bytesMethods
  | "bytearray" =>
      words "append clear copy extend insert pop remove reverse" ++ bytesMethods
  | "list" => words "append clear copy count extend index insert pop remove reverse sort"
  | "tuple" | "range" => ["count", "index"]
  | "dict" =>
      words "clear copy fromkeys get items keys pop popitem setdefault update values"
  | "dict_keys" | "dict_items" => ["isdisjoint"]
  | "set" =>
      words ("add clear copy difference difference_update discard intersection " ++
        "intersection_update isdisjoint issubset issuperset pop remove symmetric_difference " ++
        "symmetric_difference_update union update")
  | "frozenset" =>
      words ("copy difference intersection isdisjoint issubset issuperset " ++
        "symmetric_difference union")
  | "int" | "bool" =>
      words "bit_length bit_count to_bytes from_bytes conjugate as_integer_ratio"
  | "float" => words "is_integer hex fromhex as_integer_ratio conjugate"
  | "generator" => ["send", "throw", "close"]
  | "property" => ["getter", "setter", "deleter"]
  | "slice" => ["indices"]
  | "type" => ["mro", "__subclasses__"]
  | _ => if Eval.isFaultKind kind then ["with_traceback", "add_note"] else []

def isSequence (kind : String) : Bool :=
  ["str", "bytes", "bytearray", "list", "tuple", "range"].contains kind

def isOrdered (kind : String) : Bool :=
  ["str", "bytes", "bytearray", "list", "tuple", "set", "frozenset", "int", "bool",
   "float"].contains kind

def isNumber (kind : String) : Bool := ["int", "bool", "float"].contains kind

def hasSize (kind : String) : Bool :=
  isSequence kind || ["dict", "set", "frozenset", "dict_keys", "dict_values",
    "dict_items"].contains kind

def isRunThrough (kind : String) : Bool :=
  hasSize kind || ["iterator", "generator"].contains kind || channelKinds.contains kind

def commonMethods : List String :=
  words ("__repr__ __str__ __eq__ __ne__ __hash__ __init__ __new__ __setattr__ __delattr__ " ++
    "__getattribute__ __format__ __dir__ __init_subclass__")

/-- The methods of a predefined kind that stand behind signs and other syntax. -/
def hasSpecialMethod (kind name : String) : Bool :=
  match name with
  | "__len__" => hasSize kind
  | "__iter__" => isRunThrough kind
  | "__next__" => ["iterator", "generator"].contains kind || channelKinds.contains kind
  | "__contains__" => hasSize kind
  | "__getitem__" => isSequence kind || kind = "dict"
  | "__setitem__" | "__delitem__" => ["list", "dict", "bytearray"].contains kind
  | "__lt__" | "__le__" | "__gt__" | "__ge__" => isOrdered kind
  | "__add__" => (isSequence kind && kind ≠ "range") || isNumber kind
  | "__mul__" | "__rmul__" => (isSequence kind && kind ≠ "range") || isNumber kind
  | "__iadd__" | "__imul__" => kind = "list"
  | "__mod__" => ["str", "bytes"].contains kind || isNumber kind
  | "__sub__" => isNumber kind || ["set", "frozenset"].contains kind
  | "__radd__" | "__rsub__" | "__truediv__" | "__rtruediv__" | "__floordiv__" | "__pow__"
  | "__neg__" | "__pos__" | "__abs__" | "__int__" | "__float__" | "__round__" | "__bool__"
  | "__divmod__" => isNumber kind
  | "__and__" | "__or__" | "__xor__" =>
      ["int", "bool", "set", "frozenset"].contains kind || (kind = "dict" && name = "__or__")
  | "__lshift__" | "__rshift__" | "__invert__" | "__index__" => ["int", "bool"].contains kind
  | "__call__" =>
      ["function", "method", "builtin_function_or_method", "type"].contains kind
  | "__enter__" | "__exit__" => channelKinds.contains kind
  | "__reversed__" => ["list", "dict", "range"].contains kind
  | "__set_name__" => false
  | _ => false

def hasMethod (kind name : String) : Bool :=
  (kind = "object" && commonMethods.contains name) || (methods kind).contains name ||
    hasSpecialMethod kind name

/-! ## Families -/

def kindOf (value : Value) : Eval Value := do
  match value with
  | .entity address => return (← Eval.entityAt address).kind
  | .family address =>
      return ((← Eval.familyAt? address).map Family.order).getD (.kind "type")
  | value => return .kind value.plainKind

def ancestry (kind : Value) : Eval (List Value) := do
  match kind with
  | .kind name => return (plainAncestry name).map .kind
  | .family address => return ((← Eval.familyAt? address).map Family.ancestry).getD []
  | _ => return []

def nameOfKind (kind : Value) : Eval String := do
  match kind with
  | .kind name => return name
  | .family address => return ((← Eval.familyAt? address).map Family.name).getD "?"
  | _ => return "?"

def nameOf (value : Value) : Eval String := do nameOfKind (← kindOf value)

def isWithin (wider kind : Value) : Eval Bool :=
  return (← ancestry kind).any (·.isSameKind wider)

def coreKind? (kind : Value) : Eval (Option String) := do
  return (← ancestry kind).findSome? fun found =>
    match found with
    | .kind name =>
        if name = "object" ∨ widerChannelKinds.contains name then none else some name
    | _ => none

def core (value : Value) : Eval Value := do
  match value with
  | .entity address => return ((← Eval.entityAt address).core).getD value
  | value => return value

/-! ## Attributes of families -/

def found? (name : String) : List Value → Eval (Option Value)
  | [] => return none
  | .family address :: others => do
      match ((← Eval.familyAt? address).map Family.attributes).bind (·.lookup name) with
      | some value => return some value
      | none => found? name others
  | .kind kind :: others =>
      if hasMethod kind name then return some (.method (.kind kind) name)
      else found? name others
  | _ :: others => found? name others

def familyAttribute? (kind : Value) (name : String) : Eval (Option Value) := do
  found? name (← ancestry kind)

def ownAttribute? (kind : Value) (name : String) : Eval (Option Value) := do
  found? name ((← ancestry kind).filter fun found =>
    match found with
    | .family _ => true
    | _ => false)

def attached (object kind : Value) : Value → Value
  | .closure address => .bound object (.closure address)
  | .detached function => function
  | .ofFamily function => .bound kind function
  | .method (.kind _) name => .method object name
  | value => value

def special? (object : Value) (name : String) : Eval (Option Value) := do
  match object with
  | .entity _ | .family _ =>
      let kind ← kindOf object
      match kind with
      | .family _ => return (← ownAttribute? kind name).map (attached object kind)
      | _ => return none
  | _ => return none

/-! ## The order of families -/

def standsBehind (kind : Value) (lists : List (List Value)) : Bool :=
  lists.any fun list => list.tail.any (·.isSameKind kind)

/--
Merge orders of kinds into one that agrees with all of them: the next kind is the
first one at the front of a list that stands behind in none.
-/
def merged : (fuel : Nat) → List (List Value) → Option (List Value)
  | 0, _ => none
  | fuel + 1, lists =>
      let lists := lists.filter (!·.isEmpty)
      if lists.isEmpty then some []
      else do
        let next ← (lists.filterMap List.head?).find? fun kind => !standsBehind kind lists
        let rest := lists.map fun list =>
          if (list.head?).any (·.isSameKind next) then list.tail else list
        return next :: (← merged fuel rest)

def mostKinds : Nat := 1000

def orderOf? (parents : List Value) : Eval (Option (List Value)) := do
  let above ← parents.mapM ancestry
  return merged mostKinds (above ++ [parents])

end Kinds

end BuiltinWrappers.Script.Indented
