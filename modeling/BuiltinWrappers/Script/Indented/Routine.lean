import BuiltinWrappers.Script.Indented.Special

/-!
# Routines

What can be called without any library: printing, opening files, and asking
values for what they are.
-/

namespace BuiltinWrappers.Script.Indented

open Text (Octets)

variable [Evaluator]

namespace Routine

/-! ## Paths -/

def pathText? (value : Value) : Eval (Option (List Char)) := do
  let ofCore (core : Value) : Option (List Char) :=
    match core with
    | .text characters => some characters
    | .bytes octets => some (Coding.ofSystem octets)
    | _ => none
  match ofCore (← Kinds.core value) with
  | some characters => return some characters
  | none => return (← Protocol.answer? value "__fspath__" []).bind ofCore

def pathText (value : Value) : Eval (List Char) := do
  match ← pathText? value with
  | some characters => return characters
  | none =>
      Eval.typeFault ("expected str, bytes or os.PathLike object, not " ++ (← Kinds.nameOf value))

def plainPath (value : Value) : Eval Value := do
  match value with
  | .entity _ => return (← Protocol.answer? value "__fspath__" []).getD value
  | value => return value

/-! ## Printing and reading -/

def standard (name : String) (usual : Nat) : Eval Value := do
  match ← Eval.scopeAt? Place.system with
  | some scope => return (scope.entries.lookup name).getD (.channel usual)
  | none => return .channel usual

def textOrNothing (arguments : Arguments) (name usual : String) : Eval (List Char) := do
  match arguments.named.lookup name with
  | some .nothing | none => return usual.toList
  | some value =>
      match ← Kinds.core value with
      | .text characters => return characters
      | _ => Eval.typeFault (name ++ " must be None or a string, not " ++ (← Kinds.nameOf value))

def writeTo (goal : Value) (text : List Char) : Eval PUnit := do
  match goal with
  | .channel address => let _ ← Channel.write address (.text text)
  | goal => let _ ← Attributes.callMethod goal "write" [.text text]

def print (arguments : Arguments) : Eval Value := do
  let known := ["sep", "end", "file", "flush"]
  if let some (name, _) := arguments.named.find? fun entry => !known.contains entry.1 then
    Eval.typeFault ("'" ++ name ++ "' is an invalid keyword argument for print()")
  let separator ← textOrNothing arguments "sep" " "
  let ending ← textOrNothing arguments "end" "\n"
  let goal ←
    match arguments.named.lookup "file" with
    | none | some .nothing => standard "stdout" Place.output
    | some goal => pure goal
  let texts ← arguments.plain.mapM Protocol.textOf
  match goal with
  | .nothing => return .nothing
  | .channel _ => writeTo goal (separator.intercalate texts ++ ending)
  | goal =>
      texts.zipIdx.forM fun (text, index) => do
        if index ≠ 0 then writeTo goal separator
        writeTo goal text
      writeTo goal ending
  if ← Protocol.isTrue ((arguments.named.lookup "flush").getD (.truth false)) then
    let _ ← Attributes.callMethod goal "flush" []
  return .nothing

def openFile (arguments : Arguments) : Eval Value := do
  let file ← plainPath (← arguments.value 0 "file")
  let lineEnds :=
    match arguments.value? 5 "newline" with
    | some (.text characters) => some (String.ofList characters)
    | _ => none
  let manner : Channel.Manner :=
    { mode := (← arguments.text 1 "mode" "r").toList
      buffering := ← arguments.integer 2 "buffering" (-1)
      encoding := ← arguments.text 3 "encoding" "utf-8"
      handling := ← arguments.text 4 "errors" "strict"
      lineEnds }
  match file.asInteger? with
  | some number => Channel.openedNumber number manner
  | none =>
      let path ← pathText file
      match arguments.value? 7 "opener" with
      | none | some .nothing => Channel.opened file path manner
      | some opener =>
          match ← Protocol.call opener [file, .integer 0] with
          | .integer number => Channel.openedNumber number manner
          | _ => Eval.typeFault "expected integer from opener"

def input (arguments : Arguments) : Eval Value := do
  if let some prompt := arguments.plain.head? then
    writeTo (← standard "stdout" Place.output) (← Protocol.textOf prompt)
  let line ←
    match ← standard "stdin" Place.input with
    | .channel address => Channel.readLine address none
    | other => Attributes.callMethod other "readline" []
  match line with
  | .text [] => Eval.fail "EOFError" "EOF when reading a line"
  | .text characters =>
      return .text (if characters.getLast? = some '\n' then characters.dropLast else characters)
  | value => return value

/-! ## Numbers -/

def inBase (front : List Char) (base : Nat) (value : Value) : Eval Value := do
  let number ← Arguments.asInteger value
  return .text (Floating.signed (number < 0) (front ++ Nat.toDigits base number.natAbs))

/-- A number rounded to so many digits behind the point, a half to the even digit. -/
def rounded (value : Value) (digits : Option Int) : Eval Value := do
  match ← Kinds.core value, digits with
  | .real number, none =>
      match Floating.quotient? number with
      | some (numerator, denominator) =>
          return .integer (Floating.nearestInteger numerator denominator)
      | none => return .integer (← Making.integerOfReal number)
  | .real number, some digits =>
      match Floating.quotient? number with
      | none => return .real number
      | some (numerator, denominator) =>
          let (up, down) := Binary64.powerQuotient 10 digits
          let nearest := Floating.nearestInteger (numerator * up) (denominator * down)
          let result := (Floating.ofQuotient? (nearest * down) up).getD number
          return .real (if result == 0.0 ∧ Floating.isNegative number then -0.0 else result)
  | core, digits =>
      match core.asInteger? with
      | some number =>
          match digits with
          | none => return .integer number
          | some digits =>
              if 0 ≤ digits then return .integer number
              let unit := Nat.pow 10 digits.natAbs
              return .integer (Floating.nearestInteger number unit * unit)
      | none =>
          let given := digits.toList.map Value.integer
          match ← Protocol.answer? value "__round__" given with
          | some result => return result
          | none =>
              Eval.typeFault ("type " ++ (← Kinds.nameOf value) ++
                " doesn't define __round__ method")

def powerModulo (base : Int) : (fuel : Nat) → (exponent : Nat) → (modulus : Int) → Int
  | 0, _, _ => 0
  | fuel + 1, exponent, modulus =>
      if exponent = 0 then Int.fmod 1 modulus
      else
        let half := powerModulo base fuel (exponent / 2) modulus
        let square := Int.fmod (half * half) modulus
        if exponent % 2 = 1 then Int.fmod (square * base) modulus else square

def inverse? (value modulus : Int) : Option Int :=
  let rec steps : Nat → Int → Int → Int → Int → Option Int
    | 0, _, _, _, _ => none
    | fuel + 1, one, other, here, there =>
        if other = 0 then if one = 1 then some (Int.fmod here modulus) else none
        else steps fuel other (Int.fmod one other) there (here - Int.fdiv one other * there)
  steps 100000 (Int.fmod value modulus) modulus 1 0

def power (arguments : Arguments) : Eval Value := do
  let (base, exponent) := (← arguments.value 0 "base", ← arguments.value 1 "exp")
  match arguments.value? 2 "mod" with
  | none | some .nothing => Operators.binary .power base exponent
  | some modulus =>
      let (base, exponent, modulus) :=
        (← Arguments.asInteger base, ← Arguments.asInteger exponent, ← Arguments.asInteger modulus)
      if modulus = 0 then Eval.valueFault "pow() 3rd argument cannot be 0"
      if exponent < 0 then
        match inverse? base modulus with
        | some base =>
            return .integer (powerModulo base (Methods.bitLength exponent + 2) exponent.natAbs modulus)
        | none => Eval.valueFault "base is not invertible for the given modulus"
      return .integer (powerModulo base (Methods.bitLength exponent + 2) exponent.toNat modulus)

def sizeOfNumber (value : Value) : Eval Value := do
  match ← Protocol.answer? value "__abs__" [] with
  | some result => return result
  | none =>
      match ← Kinds.core value with
      | .real number => return .real number.abs
      | core =>
          match core.asInteger? with
          | some number => return .integer number.natAbs
          | none => Eval.typeFault ("bad operand type for abs(): '" ++ (← Kinds.nameOf value) ++ "'")

def divided (first second : Value) : Eval Value := do
  match ← Protocol.answer? first "__divmod__" [second] with
  | some result => return result
  | none =>
      return .tuple [← Operators.binary .wholeDivide first second,
        ← Operators.binary .remainder first second]

/-! ## Characters -/

def codeOf (value : Value) : Eval Value := do
  match ← Kinds.core value with
  | .text [character] | .bytes [character] => return .ofNat character.toNat
  | .text characters =>
      Eval.typeFault ("ord() expected a character, but string of length " ++
        Nat.repr characters.length ++ " found")
  | _ =>
      Eval.typeFault ("ord() expected string of length 1, but " ++ (← Kinds.nameOf value) ++
        " found")

def characterOf (value : Value) : Eval Value := do
  let code ← Arguments.asInteger value
  if code < 0 ∨ 0x10ffff < code then Eval.valueFault "chr() arg not in range(0x110000)"
  return .text [Char.ofNat code.toNat]

/-! ## Iterators -/

def nextOr (arguments : Arguments) : Eval Value := do
  let source ← arguments.value 0 "iterator"
  match source with
  | .generator address =>
      match ← Evaluator.resume address .nothing, arguments.plain[1]? with
      | .finished _, some value => return value
      | handout, _ => Methods.handedOut handout
  | .iterator _ | .channel _ | .entity _ =>
      match ← Evaluator.next source with
      | some value => return value
      | none =>
          match arguments.plain[1]? with
          | some value => return value
          | none => Eval.raise "StopIteration" []
  | source =>
      Eval.typeFault ("'" ++ (← Kinds.nameOf source) ++ "' object is not an iterator")

def anyTrue (source : Value) : (fuel : Nat) → Eval Bool
  | 0 => throw .exhausted
  | fuel + 1 => do
      match ← Evaluator.next source with
      | none => return false
      | some value => if ← Protocol.isTrue value then return true else anyTrue source fuel

def allTrue (source : Value) : (fuel : Nat) → Eval Bool
  | 0 => throw .exhausted
  | fuel + 1 => do
      match ← Evaluator.next source with
      | none => return true
      | some value => if ← Protocol.isTrue value then allTrue source fuel else return false

def sum (arguments : Arguments) : Eval Value := do
  let start := (arguments.value? 1 "start").getD (.integer 0)
  if let .text _ := start then
    Eval.typeFault "sum() can't sum strings [use ''.join(seq) instead]"
  (← Protocol.items (← arguments.value 0 "iterable")).foldlM (Operators.binary .add) start

/-! ## Attributes -/

def attributeName (arguments : Arguments) : Eval String := do
  match ← Kinds.core (← arguments.value 1 "name") with
  | .text characters => return String.ofList characters
  | _ => Eval.typeFault "attribute name must be string"

def found? (object : Value) (name : String) : Eval (Option Value) := do
  try Attributes.lookUp? object name
  catch
    | .fault fault =>
        if ← Protocol.isFaultOf "AttributeError" fault then return none
        throw (.fault fault)
    | leap => throw leap

def attributeOr (arguments : Arguments) : Eval Value := do
  let object ← arguments.value 0 "object"
  let name ← attributeName arguments
  match arguments.plain[2]? with
  | none => Attributes.lookUp object name
  | some value => return (← found? object name).getD value

def isCallable (value : Value) : Eval Bool := do
  match value with
  | .closure _ | .bound _ _ | .routine _ | .method _ _ | .kind _ | .family _ => return true
  | .entity _ => return (← Kinds.special? value "__call__").isSome
  | _ => return false

def addressOf (value : Value) : Eval Value := do
  match value.address? with
  | some address => return .ofNat (0x7f0000000000 + 16 * address)
  | none => return .integer (0x560000000000 + 16 * (← Special.hashOfCore 100 value))

def ownEntries (object : Value) : Eval Value := do
  match ← Attributes.lookUp? object "__dict__" with
  | some value => return value
  | none => Eval.typeFault "vars() argument must have __dict__ attribute"

/-! ## All routines -/

def names : List String :=
  ["print", "open", "len", "repr", "sorted", "min", "max", "sum", "any", "all", "isinstance",
   "issubclass", "abs", "ord", "chr", "hex", "oct", "bin", "iter", "next", "exit", "quit", "input",
   "callable", "format", "ascii", "divmod", "pow", "hasattr", "getattr", "setattr", "delattr",
   "id", "hash", "round", "vars", "dir", "globals", "locals", "eval", "exec", "compile",
   "__import__", "__build_class__"]

def leave {α : Type} (arguments : Arguments) : Eval α :=
  Eval.raise "SystemExit" (arguments.plain.take 1)

/-- Call a routine that is there without a library. -/
def callPlain (name : String) (arguments : Arguments) : Eval Value := do
  let first : Eval Value := arguments.value 0 "object"
  match name with
  | "print" => print arguments
  | "open" => openFile arguments
  | "len" => return .ofNat (← Protocol.size (← first))
  | "repr" => return .text (← Evaluator.shown (← first))
  | "ascii" => return .text (Forms.plainlyShown (← Evaluator.shown (← first)))
  | "sorted" => Eval.newList (← Sorting.sorted (← Protocol.items (← first)) arguments)
  | "min" | "max" => Sorting.extreme name arguments
  | "sum" => sum arguments
  | "any" => return .truth (← anyTrue (← Protocol.iterator (← first)) Protocol.mostValues)
  | "all" => return .truth (← allTrue (← Protocol.iterator (← first)) Protocol.mostValues)
  | "isinstance" =>
      return .truth (← Families.isInstance Families.deepestKinds (← first)
        (← arguments.value 1 "class"))
  | "issubclass" =>
      return .truth (← Families.isSubfamily Families.deepestKinds (← first)
        (← arguments.value 1 "class"))
  | "abs" => sizeOfNumber (← first)
  | "ord" => codeOf (← first)
  | "chr" => characterOf (← first)
  | "hex" => inBase ['0', 'x'] 16 (← first)
  | "oct" => inBase ['0', 'o'] 8 (← first)
  | "bin" => inBase ['0', 'b'] 2 (← first)
  | "iter" =>
      match arguments.plain with
      | [function, last] => Eval.newIterator (.untilEqual function last)
      | _ => Protocol.iterator (← first)
  | "next" => nextOr arguments
  | "exit" | "quit" => leave arguments
  | "input" => input arguments
  | "callable" => return .truth (← isCallable (← first))
  | "format" =>
      return .text (← Forms.formed (← first) (← arguments.text 1 "format_spec" "").toList)
  | "divmod" => divided (← first) (← arguments.value 1 "divisor")
  | "pow" => power arguments
  | "hasattr" => return .truth (← found? (← first) (← attributeName arguments)).isSome
  | "getattr" => attributeOr arguments
  | "setattr" =>
      Attributes.setAttribute (← first) (← attributeName arguments) (← arguments.value 2 "value")
      return .nothing
  | "delattr" =>
      Attributes.removeAttribute (← first) (← attributeName arguments)
      return .nothing
  | "id" => addressOf (← first)
  | "hash" => Special.hashOf (← first)
  | "round" =>
      let digits ←
        match arguments.value? 1 "ndigits" with
        | none | some .nothing => pure none
        | some value => some <$> Arguments.asInteger value
      rounded (← arguments.value 0 "number") digits
  | "vars" => ownEntries (← first)
  | "dir" =>
      match ← Protocol.answer? (← first) "__dir__" [] with
      | some found => Eval.newList (← Sorting.sorted (← Protocol.items found) {})
      | none => Eval.newList ((← Special.attributeNames (← first)).map .ofString)
  | "globals" => return .dictionary Place.globals
  | "__import__" => Evaluator.loadLibrary (← arguments.text 0 "name" "")
  | name => Eval.fail "NameError" ("name '" ++ name ++ "' is not defined")

end Routine

end BuiltinWrappers.Script.Indented
