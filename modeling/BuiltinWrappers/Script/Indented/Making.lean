import BuiltinWrappers.Script.Indented.Methods

/-!
# Making values

Each kind makes values of its own out of others: a number is read from a text, a
list is filled with what another value runs through.
-/

namespace BuiltinWrappers.Script.Indented

open Text (Octets)

variable [Evaluator]

namespace Making

/-! ## Numbers -/

def plainDigits? (base : Nat) : (afterDigit : Bool) → List Char → Option (List Char)
  | afterDigit, [] => if afterDigit then some [] else none
  | afterDigit, character :: rest =>
      if character = '_' then if afterDigit then plainDigits? base false rest else none
      else if isDigit base character then (plainDigits? base true rest).map (character :: ·)
      else none
where
  isDigit (base : Nat) (character : Char) : Bool := (value? base character).isSome
  value? (base : Nat) (character : Char) : Option Nat :=
    let value :=
      if character.isDigit then character.toNat - '0'.toNat
      else if character.isAlpha then character.toLower.toNat - 'a'.toNat + 10
      else base
    if value < base then some value else none

def digitsValue (base : Nat) (digits : List Char) : Nat :=
  digits.foldl (fun value digit =>
    base * value + (plainDigits?.value? base digit).getD 0) 0

def baseOf (base : Nat) (digits : List Char) : Nat × List Char :=
  match digits with
  | '0' :: letter :: rest =>
      let told := [('x', 16), ('o', 8), ('b', 2)].lookup letter.toLower
      match told with
      | some found =>
          if base = 0 ∨ base = found then
            (found, if rest.head? = some '_' then rest.tail else rest)
          else (base, digits)
      | none => (if base = 0 then 10 else base, digits)
  | digits => (if base = 0 then 10 else base, digits)

def integerOfText? (base : Nat) (text : List Char) : Option Int := do
  let text := Texts.stripped Texts.isSpace text
  let (negative, digits) :=
    match text with
    | '-' :: digits => (true, digits)
    | '+' :: digits => (false, digits)
    | digits => (false, digits)
  let (base, digits) := baseOf base digits
  let digits ← plainDigits? base false digits
  let number : Int := digitsValue base digits
  return if negative then -number else number

def integerOfReal (value : Float) : Eval Int := do
  match Floating.truncated? value with
  | some number => return number
  | none =>
      if value.isNaN then Eval.valueFault "cannot convert float NaN to integer"
      Eval.fail "OverflowError" "cannot convert float infinity to integer"

def badInteger {α : Type} (base : Nat) (value : Value) : Eval α := do
  Eval.valueFault ("invalid literal for int() with base " ++ Nat.repr base ++ ": " ++
    String.ofList (← Evaluator.shown value))

def integerOf (value : Value) (base : Option Nat) : Eval Int := do
  match ← Kinds.core value with
  | .text characters =>
      match integerOfText? (base.getD 10) characters with
      | some number => return number
      | none => badInteger (base.getD 10) value
  | .real number => integerOfReal number
  | core =>
      match core.asInteger?, ← Protocol.octetsOf? core with
      | some number, _ => return number
      | none, some octets =>
          match integerOfText? (base.getD 10) octets with
          | some number => return number
          | none => badInteger (base.getD 10) value
      | none, none =>
          for name in ["__int__", "__index__", "__trunc__"] do
            if let some (.integer number) := ← Protocol.answer? value name [] then return number
          Eval.typeFault ("int() argument must be a string, a bytes-like object or a real number, "
            ++ "not '" ++ (← Kinds.nameOf value) ++ "'")

def realOfInteger (value : Int) : Eval Float := do
  match Floating.ofInteger? value with
  | some number => return number
  | none => Eval.fail "OverflowError" "int too large to convert to float"

def realOf (value : Value) : Eval Float := do
  match ← Kinds.core value with
  | .real number => return number
  | .text characters =>
      match Floating.ofText? (Texts.stripped Texts.isSpace characters) with
      | some number => return number
      | none =>
          Eval.valueFault ("could not convert string to float: " ++
            String.ofList (← Evaluator.shown value))
  | core =>
      match core.asInteger? with
      | some number => realOfInteger number
      | none =>
          match ← Protocol.answer? value "__float__" [] with
          | some (.real number) => return number
          | _ =>
              match ← Protocol.answer? value "__index__" [] with
              | some (.integer number) => realOfInteger number
              | _ =>
                  Eval.typeFault ("float() argument must be a string or a real number, not '" ++
                    (← Kinds.nameOf value) ++ "'")

/-! ## Texts and octets -/

def textOf (arguments : Arguments) : Eval Value := do
  match arguments.value? 0 "object", arguments.value? 1 "encoding" with
  | none, _ => return .text []
  | some value, none =>
      match value, arguments.named.lookup "errors" with
      | .bytes octets, some _ =>
          return .text (← Coding.decode "utf-8" (← arguments.text 2 "errors" "strict") octets)
      | value, _ => return .text (← Protocol.textOf value)
  | some value, some _ =>
      match ← Protocol.octetsOf? value with
      | some octets =>
          return .text (← Coding.decode (← arguments.text 1 "encoding" "utf-8")
            (← arguments.text 2 "errors" "strict") octets)
      | none => Eval.typeFault "decoding to str: need a bytes-like object"

def octetsOf (arguments : Arguments) : Eval Octets := do
  match arguments.value? 0 "source" with
  | none => return []
  | some value =>
      match ← Kinds.core value with
      | .text characters =>
          if (arguments.value? 1 "encoding").isNone then
            Eval.typeFault "string argument without an encoding"
          Coding.encode (← arguments.text 1 "encoding" "utf-8")
            (← arguments.text 2 "errors" "strict") characters
      | .integer count =>
          if count < 0 then Eval.valueFault "negative count"
          return List.replicate count.toNat '\x00'
      | core =>
          match ← Protocol.octetsOf? core with
          | some octets => return octets
          | none =>
              match ← Protocol.answer? value "__bytes__" [] with
              | some (.bytes octets) => return octets
              | _ => (← Protocol.items value).mapM fun value => do
                  let number ← Arguments.asInteger value
                  if number < 0 ∨ 255 < number then
                    Eval.valueFault "bytes must be in range(0, 256)"
                  return Char.ofNat number.toNat

/-! ## Iterators -/

def range (arguments : Arguments) : Eval Value := do
  match ← arguments.plain.mapM Arguments.asInteger with
  | [stop] => return .range 0 stop 1
  | [start, stop] => return .range start stop 1
  | [start, stop, step] =>
      if step = 0 then Eval.valueFault "range() arg 3 must not be zero"
      return .range start stop step
  | _ => Eval.typeFault "range expected at least 1 argument, got 0"

def reversed (value : Value) : Eval Value := do
  match ← Protocol.answer? value "__reversed__" [] with
  | some found => return found
  | none =>
      match ← Kinds.core value with
      | .set _ | .iterator _ | .generator _ =>
          Eval.typeFault ("'" ++ (← Kinds.nameOf value) ++ "' object is not reversible")
      | .entity _ =>
          let count ← Protocol.size value
          let values ← (List.range count).mapM fun index =>
            Elements.element value (.ofNat (count - 1 - index))
          Eval.newIterator (.values values)
      | core => Eval.newIterator (.values (← Protocol.items core).reverse)

/-! ## Channels -/

def lineEnds (arguments : Arguments) (index : Nat) (usual : Option String) :
    Eval (Option String) := do
  match arguments.value? index "newline" with
  | none => return usual
  | some .nothing => return none
  | some _ => return some (← arguments.text index "newline" "")

def textChannel (address : Nat) (arguments : Arguments) : Eval Value := do
  Channel.flush address
  let channel ← Channel.at_ address
  return .channel (← Eval.allocate (.channel { channel with
    isBinary := false, isDirect := false, pending := []
    encoding := ← arguments.text 1 "encoding" "utf-8"
    handling := ← arguments.text 2 "errors" "strict"
    lineEnds := ← lineEnds arguments 3 none
    isByLine := ← arguments.truth 4 "line_buffering" false }))

def memoryChannel (isBinary : Bool) (arguments : Arguments) : Eval Value := do
  let content ←
    match arguments.value? 0 (if isBinary then "initial_bytes" else "initial_value") with
    | none | some .nothing => pure []
    | some value =>
        if isBinary then octetsOf { plain := [value] }
        else pure (encoded (← Protocol.needText value))
  Channel.openedMemory isBinary content (← lineEnds arguments 1 (some "\n"))

/-! ## All kinds -/

def names : List String :=
  ["str", "int", "bool", "float", "bytes", "bytearray", "list", "tuple", "dict", "set",
   "frozenset", "range", "object", "type", "enumerate", "zip", "map", "filter", "reversed",
   "slice", "property", "staticmethod", "classmethod", "super", "memoryview"]

def numberedFaults : List (Int × String) :=
  [(1, "PermissionError"), (2, "FileNotFoundError"), (3, "ProcessLookupError"),
   (4, "InterruptedError"), (10, "ChildProcessError"), (11, "BlockingIOError"),
   (13, "PermissionError"), (17, "FileExistsError"), (20, "NotADirectoryError"),
   (21, "IsADirectoryError"), (32, "BrokenPipeError"), (110, "TimeoutError")]

/-- Make a value of a predefined kind. -/
def make (kind : String) (arguments : Arguments) : Eval Value := do
  let first? := arguments.plain.head?
  let given : Eval (List Value) := do
    match first? with
    | some value => Protocol.items value
    | none => return []
  let function : Eval Value := arguments.value 0 "function"
  match kind with
  | "str" => textOf arguments
  | "int" =>
      match first? with
      | none => return .integer 0
      | some value =>
          match arguments.value? 1 "base" with
          | some base =>
              return .integer (← integerOf value (some (← Arguments.asInteger base).toNat))
          | none => return .integer (← integerOf value none)
  | "bool" => return .truth (← Protocol.isTrue (first?.getD (.truth false)))
  | "float" => return .real (← realOf (first?.getD (.integer 0)))
  | "bytes" | "memoryview" => return .bytes (← octetsOf arguments)
  | "bytearray" => return .octets (← Eval.allocate (.octets (← octetsOf arguments)))
  | "list" => Eval.newList (← given)
  | "tuple" =>
      match first? with
      | some (.tuple values) => return .tuple values
      | _ => return .tuple (← given)
  | "set" => Eval.newSet (← Protocol.distinct (← given))
  | "frozenset" =>
      return .frozenSet (← Eval.allocate (.set (← Protocol.distinct (← given))))
  | "dict" =>
      Eval.newDictionary (← Protocol.insertAll [] (← Methods.givenEntries arguments))
  | "range" => range arguments
  | "object" => Eval.newEntity { kind := .kind "object" }
  | "enumerate" =>
      let source ← Protocol.iterator (← arguments.value 0 "iterable")
      Eval.newIterator (.numbered source (← arguments.integer 1 "start" 0))
  | "zip" =>
      let sources ← arguments.plain.mapM Protocol.iterator
      Eval.newIterator (.zipped sources (← arguments.truth 99 "strict" false))
  | "map" =>
      match arguments.plain with
      | routine :: source :: sources =>
          Eval.newIterator (.mapped routine (← (source :: sources).mapM Protocol.iterator))
      | _ => Eval.typeFault "map() must have at least two arguments."
  | "filter" =>
      match arguments.plain with
      | [routine, source] => Eval.newIterator (.filtered routine (← Protocol.iterator source))
      | _ => Eval.typeFault "filter expected 2 arguments"
  | "reversed" => reversed (← arguments.value 0 "sequence")
  | "slice" =>
      match arguments.plain with
      | [stop] => return .slice .nothing stop .nothing
      | [start, stop] => return .slice start stop .nothing
      | [start, stop, step] => return .slice start stop step
      | _ => Eval.typeFault "slice expected at least 1 argument, got 0"
  | "property" =>
      let part (index : Nat) (name : String) : Value :=
        (arguments.value? index name).getD .nothing
      return .accessor (part 0 "fget") (part 1 "fset") (part 2 "fdel")
  | "staticmethod" => return .detached (← function)
  | "classmethod" => return .ofFamily (← function)
  | "StringIO" => memoryChannel false arguments
  | "BytesIO" => memoryChannel true arguments
  | "TextIOWrapper" =>
      match ← arguments.value 0 "buffer" with
      | .channel address => textChannel address arguments
      | _ => Eval.typeFault "TextIOWrapper() argument 1 must be a channel"
  | "BufferedReader" | "BufferedWriter" | "BufferedRandom" => arguments.value 0 "raw"
  | "super" =>
      match arguments.plain with
      | [family, object] => return .superior family object
      | _ => Eval.fail "RuntimeError" "super(): no arguments"
  | "type" =>
      match arguments.plain with
      | [value] => Kinds.kindOf value
      | _ => Eval.typeFault "type() takes 1 or 3 arguments"
  | kind =>
      if Eval.isFaultKind kind then
        let kind :=
          match kind, arguments.plain with
          | "OSError", .integer number :: _ :: _ =>
              (numberedFaults.lookup number).getD kind
          | kind, _ => kind
        Eval.newFault kind arguments.plain
      else Eval.typeFault ("cannot create '" ++ kind ++ "' instances")

end Making

end BuiltinWrappers.Script.Indented
