import BuiltinWrappers.Script.Indented.Channel
import BuiltinWrappers.Text.Blank
import BuiltinWrappers.Text.Printable

/-!
# What values answer

Whether a value counts as true, what it is equal to, what comes before it, which
values it runs through and how it is shown.  Families answer by methods of their
own, so what calls functions is given from outside.
-/

namespace BuiltinWrappers.Script.Indented

open Text (Octets)

inductive Handout where
  | given (value : Value)
  | finished (result : Value)

/-- How functions are called and bodies are run. -/
class Evaluator where
  call : Value → Arguments → Eval Value
  next : Value → Eval (Option Value)
  equal : Value → Value → Eval Bool
  less : Comparison → Value → Value → Eval Bool
  shown : Value → Eval (List Char)
  evaluate : List Nat → Expression → Eval Value
  run : List Nat → List Statement → Eval PUnit
  resume : Nat → Value → Eval Handout
  interrupt : Nat → Value → Eval Handout
  loadLibrary : String → Eval Value

variable [Evaluator]

namespace Protocol

def call (function : Value) (values : List Value) : Eval Value :=
  Evaluator.call function { plain := values }

def answer? (object : Value) (name : String) (values : List Value) : Eval (Option Value) := do
  match ← Kinds.special? object name with
  | some function => return some (← call function values)
  | none => return none

def isFaultOf (kind : String) (fault : Value) : Eval Bool := do
  Kinds.isWithin (.kind kind) (← Kinds.kindOf fault)

/-! ## Truth and size -/

def sizeOf? (value : Value) : Eval (Option Nat) := do
  match value with
  | .text characters => return some characters.length
  | .bytes octets => return some octets.length
  | .tuple values => return some values.length
  | .list address | .set address | .frozenSet address =>
      return some (← Eval.listAt address).length
  | .octets address => return some (← Eval.octetsAt address).length
  | .dictionary address | .view _ address => return some (← Eval.entriesAt address).length
  | .range start stop step =>
      let count :=
        if 0 < step then (stop - start + step - 1) / step else (start - stop - step - 1) / (-step)
      return some count.toNat
  | _ => return none

def size (value : Value) : Eval Nat := do
  match ← answer? value "__len__" [] with
  | some (.integer count) =>
      if count < 0 then Eval.valueFault "__len__() should return >= 0"
      return count.toNat
  | some (.truth count) => return if count then 1 else 0
  | some _ => Eval.typeFault "object cannot be interpreted as an integer"
  | none =>
      match ← sizeOf? (← Kinds.core value) with
      | some count => return count
      | none => Eval.typeFault ("object of type '" ++ (← Kinds.nameOf value) ++ "' has no len()")

def isTrue (value : Value) : Eval Bool := do
  match value with
  | .nothing => return false
  | .truth value => return value
  | .integer value => return value ≠ 0
  | .real value => return value != 0.0
  | .entity _ | .family _ =>
      match ← answer? value "__bool__" [] with
      | some (.truth value) => return value
      | some _ => Eval.typeFault "__bool__ should return bool"
      | none =>
          match ← answer? value "__len__" [] with
          | some (.integer count) => return count ≠ 0
          | _ =>
              match ← Kinds.core value with
              | .entity _ | .family _ => return true
              | .integer value => return value ≠ 0
              | .real value => return value != 0.0
              | core => return (← sizeOf? core).getD 1 ≠ 0
  | value => return (← sizeOf? value).getD 1 ≠ 0

/-! ## Equality -/

def plainEqual? (first second : Value) : Option Bool :=
  match first, second with
  | .text one, .text other | .bytes one, .bytes other => some (one = other)
  | .integer one, .integer other => some (one = other)
  | .text _, .integer _ | .integer _, .text _ | .nothing, .text _ | .text _, .nothing
  | .text _, .tuple _ | .tuple _, .text _ => some false
  | .nothing, .nothing => some true
  | _, _ => none

def quotients? (first second : Value) : Option ((Int × Nat) × (Int × Nat)) := do
  let quotient? : Value → Option (Int × Nat)
    | .real value => Floating.quotient? value
    | value => value.asInteger?.map (·, 1)
  return (← quotient? first, ← quotient? second)

def isNumber : Value → Bool
  | .real _ | .integer _ | .truth _ => true
  | _ => false

def toReal : Value → Float
  | .real value => value
  | value => (Floating.ofInteger? (value.asInteger?.getD 0)).getD (1.0 / 0.0)

def numbersEqual (first second : Value) : Bool :=
  match quotients? first second with
  | some ((a, b), (c, d)) => a * d = c * b
  | none => toReal first == toReal second

def isSame (first second : Value) : Bool :=
  match first, second with
  | .nothing, .nothing | .ellipsis, .ellipsis | .unfit, .unfit => true
  | .truth one, .truth other => one = other
  | .integer one, .integer other => one = other
  | .real one, .real other => one.toBits = other.toBits
  | .text one, .text other | .bytes one, .bytes other => one = other
  | .tuple [], .tuple [] => true
  | .kind one, .kind other | .routine one, .routine other => one = other
  | .view one here, .view other there => one = other && here = there
  | first, second =>
      match first.address?, second.address? with
      | some one, some other => one = other && first.plainKind = second.plainKind
      | _, _ => false

def allEqual : List Value → List Value → Eval Bool
  | [], [] => return true
  | one :: ones, other :: others => do
      if isSame one other then allEqual ones others
      else if ← Evaluator.equal one other then allEqual ones others
      else return false
  | _, _ => return false

def contains (value : Value) : List Value → Eval Bool
  | [] => return false
  | other :: others => do
      match plainEqual? value other with
      | some true => return true
      | some false => contains value others
      | none =>
          if isSame value other then return true
          if ← Evaluator.equal value other then return true
          contains value others

def find? (key : Value) : List (Value × Value) → Eval (Option Value)
  | [] => return none
  | (other, value) :: entries => do
      match plainEqual? key other with
      | some true => return some value
      | some false => find? key entries
      | none =>
          if isSame key other then return some value
          if ← Evaluator.equal key other then return some value
          find? key entries

def entriesEqual (others : List (Value × Value)) : List (Value × Value) → Eval Bool
  | [] => return true
  | (key, value) :: entries => do
      match ← find? key others with
      | none => return false
      | some other =>
          if isSame value other then entriesEqual others entries
          else if ← Evaluator.equal value other then entriesEqual others entries
          else return false

def octetsOf? (value : Value) : Eval (Option Octets) := do
  match value with
  | .bytes octets => return some octets
  | .octets address => return some (← Eval.octetsAt address)
  | _ => return none

def setValues? (value : Value) : Eval (Option (List Value)) := do
  match value with
  | .set address | .frozenSet address => return some (← Eval.listAt address)
  | .view .keys address => return some ((← Eval.entriesAt address).map Prod.fst)
  | .view .entries address =>
      return some ((← Eval.entriesAt address).map fun (key, value) => .tuple [key, value])
  | _ => return none

/-- Equality of values that no family has a say in. -/
def coresEqual (first second : Value) : Eval Bool := do
  match first, second with
  | .tuple one, .tuple other => allEqual one other
  | .list one, .list other => allEqual (← Eval.listAt one) (← Eval.listAt other)
  | .dictionary one, .dictionary other =>
      let (ones, others) := (← Eval.entriesAt one, ← Eval.entriesAt other)
      if ones.length ≠ others.length then return false
      entriesEqual others ones
  | .range _ _ _, .range _ _ _ =>
      let places (value : Value) : Eval (Nat × Int × Int) := do
        let count := (← sizeOf? value).getD 0
        match value with
        | .range start _ step => return (count, if count = 0 then 0 else start,
            if count < 2 then 0 else step)
        | _ => return (0, 0, 0)
      return (← places first) = (← places second)
  | .slice a b c, .slice d e f => allEqual [a, b, c] [d, e, f]
  | .bound one function, .bound other otherFunction =>
      return isSame one other && isSame function otherFunction
  | .method one name, .method other otherName => return isSame one other && name = otherName
  | first, second =>
      if isNumber first ∧ isNumber second then return numbersEqual first second
      match ← octetsOf? first, ← octetsOf? second with
      | some one, some other => return one = other
      | _, _ =>
          match ← setValues? first, ← setValues? second with
          | some ones, some others =>
              if ones.length ≠ others.length then return false
              for value in ones do
                if !(← contains value others) then return false
              return true
          | _, _ => return isSame first second

def equal (first second : Value) : Eval Bool := do
  if let some result := plainEqual? first second then return result
  let judged ← do
    match ← answer? first "__eq__" [second] with
    | some .unfit | none => answer? second "__eq__" [first]
    | judged => pure judged
  match judged with
  | some .unfit | none =>
      let (one, other) := (← Kinds.core first, ← Kinds.core second)
      coresEqual one other
  | some value => isTrue value

/-! ## Order -/

def lessText : List Char → List Char → Bool
  | [], [] => false
  | [], _ :: _ => true
  | _ :: _, [] => false
  | one :: ones, other :: others =>
      if one = other then lessText ones others else one.toNat < other.toNat

def holds (comparison : Comparison) (isLess isEqual : Bool) : Bool :=
  match comparison with
  | .less => isLess
  | .lessEqual => isLess || isEqual
  | .greater => !isLess && !isEqual
  | _ => !isLess

def mismatch {α : Type} (comparison : Comparison) (first second : Value) : Eval α := do
  Eval.typeFault ("'" ++ comparison.sign ++ "' not supported between instances of '" ++
    (← Kinds.nameOf first) ++ "' and '" ++ (← Kinds.nameOf second) ++ "'")

def listsCompare (comparison : Comparison) : List Value → List Value → Eval Bool
  | [], [] => return holds comparison false true
  | [], _ :: _ => return holds comparison true false
  | _ :: _, [] => return holds comparison false false
  | one :: ones, other :: others => do
      if isSame one other then listsCompare comparison ones others
      else if ← Evaluator.equal one other then listsCompare comparison ones others
      else Evaluator.less comparison one other

def numbersCompare (comparison : Comparison) (first second : Value) : Bool :=
  match quotients? first second with
  | some ((a, b), (c, d)) => holds comparison (a * d < c * b) (a * d = c * b)
  | none =>
      let (one, other) := (toReal first, toReal second)
      match comparison with
      | .less => one < other
      | .lessEqual => one ≤ other
      | .greater => other < one
      | _ => other ≤ one

def isPartOf (others : List Value) : List Value → Eval Bool
  | [] => return true
  | value :: values => do
      if ← contains value others then isPartOf others values else return false

def coresCompare (comparison : Comparison) (first second : Value) : Eval Bool := do
  match first, second with
  | .text one, .text other => return holds comparison (lessText one other) (one = other)
  | .tuple one, .tuple other => listsCompare comparison one other
  | .list one, .list other =>
      listsCompare comparison (← Eval.listAt one) (← Eval.listAt other)
  | first, second =>
      if isNumber first ∧ isNumber second then return numbersCompare comparison first second
      match ← octetsOf? first, ← octetsOf? second with
      | some one, some other => return holds comparison (lessText one other) (one = other)
      | _, _ =>
          match ← setValues? first, ← setValues? second with
          | some ones, some others =>
              let (ones, others) :=
                match comparison with
                | .less | .lessEqual => (ones, others)
                | _ => (others, ones)
              let isStrict := comparison = .less ∨ comparison = .greater
              if isStrict ∧ others.length ≤ ones.length then return false
              isPartOf others ones
          | _, _ => mismatch comparison first second

def compare (comparison : Comparison) (first second : Value) : Eval Bool := do
  let judged ← do
    match ← answer? first comparison.method [second] with
    | some .unfit | none => answer? second comparison.turned.method [first]
    | judged => pure judged
  match judged with
  | some .unfit | none =>
      let (one, other) := (← Kinds.core first, ← Kinds.core second)
      match one, other with
      | .entity _, _ | _, .entity _ => mismatch comparison first second
      | one, other => coresCompare comparison one other
  | some value => isTrue value

/-! ## Dictionaries and sets -/

def needKey (value : Value) : Eval PUnit := do
  let refuse (value : Value) : Eval PUnit := do
    Eval.typeFault ("unhashable type: '" ++ (← Kinds.nameOf value) ++ "'")
  match value with
  | .list _ | .dictionary _ | .set _ | .octets _ | .slice _ _ _ => refuse value
  | .tuple values =>
      values.forM fun inner =>
        match inner with
        | .list _ | .dictionary _ | .set _ | .octets _ => refuse inner
        | _ => pure ()
  | .entity _ =>
      match ← Kinds.special? value "__hash__", ← Kinds.core value with
      | some .nothing, _ => refuse value
      | none, .list _ | none, .dictionary _ | none, .set _ => refuse value
      | _, _ => pure ()
  | _ => pure ()

def insertEntry (key value : Value) :
    List (Value × Value) → (passed : List (Value × Value)) → Eval (List (Value × Value))
  | [], passed => return ((key, value) :: passed).reverse
  | (other, before) :: entries, passed => do
      let matches_ ←
        match plainEqual? key other with
        | some result => pure result
        | none => if isSame key other then pure true else Evaluator.equal key other
      if matches_ then return passed.reverse ++ (other, value) :: entries
      else insertEntry key value entries ((other, before) :: passed)

def insert (key value : Value) (entries : List (Value × Value)) :
    Eval (List (Value × Value)) := do
  needKey key
  insertEntry key value entries []

def insertAll (entries more : List (Value × Value)) : Eval (List (Value × Value)) :=
  more.foldlM (fun entries (key, value) => insert key value entries) entries

def erase (key : Value) : List (Value × Value) → Eval (List (Value × Value))
  | [] => return []
  | (other, value) :: entries => do
      let matches_ ←
        match plainEqual? key other with
        | some result => pure result
        | none => if isSame key other then pure true else Evaluator.equal key other
      if matches_ then return entries else return (other, value) :: (← erase key entries)

def distinct (values : List Value) : Eval (List Value) := do
  let kept ← values.foldlM (fun kept value => do
    needKey value
    return if ← contains value kept then kept else value :: kept) []
  return kept.reverse

/-! ## Running through values -/

def placesFor (count : Nat) : Nat :=
  if count < 5 then 8 else if count < 19 then 32 else if count < 77 then 128
  else if count < 307 then 512 else if count < 1229 then 2048 else 8192

def inPlaces (values : List Value) : List Value :=
  let places : Int := placesFor values.length
  if values.all fun value => value.asInteger?.isSome then
    values.mergeSort fun one other =>
      Int.emod (one.asInteger?.getD 0) places ≤ Int.emod (other.asInteger?.getD 0) places
  else values

def steps (step : Int) : (count : Nat) → (start : Int) → List Value
  | 0, _ => []
  | count + 1, start => .integer start :: steps step count (start + step)

def entryValue (part : EntryPart) (entry : Value × Value) : Value :=
  match part with
  | .keys => entry.1
  | .values => entry.2
  | .entries => .tuple [entry.1, entry.2]

def heldValues? (value : Value) : Eval (Option (List Value)) := do
  match value with
  | .text characters => return some (characters.map fun character => .text [character])
  | .bytes octets => return some (octets.map fun octet => .ofNat octet.toNat)
  | .octets address =>
      return some ((← Eval.octetsAt address).map fun octet => .ofNat octet.toNat)
  | .tuple values => return some values
  | .list address => return some (← Eval.listAt address)
  | .set address | .frozenSet address => return some (inPlaces (← Eval.listAt address))
  | .dictionary address => return some ((← Eval.entriesAt address).map Prod.fst)
  | .view part address => return some ((← Eval.entriesAt address).map (entryValue part))
  | .range start _ step => return some (steps step ((← sizeOf? value).getD 0) start)
  | _ => return none

/-- An iterator over the values that a value runs through. -/
def iterator (value : Value) : Eval Value := do
  match value with
  | .iterator _ | .generator _ => return value
  | .channel address =>
      let _ ← Channel.at_ address
      return value
  | .list address => Eval.newIterator (.list address 0)
  | .range start stop step => Eval.newIterator (.numbers start stop step)
  | .dictionary address =>
      Eval.newIterator (.entries .keys address (← Eval.entriesAt address).length 0)
  | .view part address =>
      Eval.newIterator (.entries part address (← Eval.entriesAt address).length 0)
  | .entity _ | .family _ =>
      match ← answer? value "__iter__" [] with
      | some found =>
          match found with
          | .entity _ =>
              if (← Kinds.special? found "__next__").isNone then
                Eval.typeFault ("iter() returned non-iterator of type '" ++
                  (← Kinds.nameOf found) ++ "'")
              return found
          | .iterator _ | .generator _ | .channel _ => return found
          | found => Eval.typeFault ("iter() returned non-iterator of type '" ++
              (← Kinds.nameOf found) ++ "'")
      | none =>
          if (← Kinds.special? value "__getitem__").isSome then
            Eval.newIterator (.elements value 0)
          else
            match ← Kinds.core value with
            | .list address => Eval.newIterator (.list address 0)
            | core =>
                match ← heldValues? core with
                | some values => Eval.newIterator (.values values)
                | none => refuse value
  | value =>
      match ← heldValues? value with
      | some values => Eval.newIterator (.values values)
      | none => refuse value
where
  refuse (value : Value) : Eval Value := do
    Eval.typeFault ("'" ++ (← Kinds.nameOf value) ++ "' object is not iterable")

def drained : (fuel : Nat) → (found : List Value) → Value → Eval (List Value)
  | 0, _, _ => throw .exhausted
  | fuel + 1, found, source => do
      match ← Evaluator.next source with
      | some value => drained fuel (value :: found) source
      | none => return found.reverse

def mostValues : Nat := 1000000

def items (value : Value) : Eval (List Value) := do
  match value with
  | .entity _ | .family _ => drained mostValues [] (← iterator value)
  | value =>
      match ← heldValues? value with
      | some values => return values
      | none => drained mostValues [] (← iterator value)

/-- The values of each iterator, unless one of them has come to its end. -/
def nextOfAll : List Value → Eval (Option (List Value))
  | [] => return some []
  | source :: sources => do
      match ← Evaluator.next source with
      | none => return none
      | some value => return (← nextOfAll sources).map (value :: ·)

def needAllDone (sources : List Value) : Eval PUnit := do
  let found ← sources.mapM Evaluator.next
  if found.any Option.isSome then Eval.valueFault "zip() arguments have different lengths"

def nextFiltered (function source : Value) : (fuel : Nat) → Eval (Option Value)
  | 0 => throw .exhausted
  | fuel + 1 => do
      match ← Evaluator.next source with
      | none => return none
      | some value =>
          let kept ←
            match function with
            | .nothing => isTrue value
            | function => isTrue (← call function [value])
          if kept then return some value else nextFiltered function source fuel

/-- The next value on a course, and the course from there on. -/
def onCourse (course : Course) : Eval (Option (Value × Course)) := do
  match course with
  | .values [] => return none
  | .values (value :: rest) => return some (value, .values rest)
  | .list address index =>
      return ((← Eval.listAt address)[index]?).map fun value => (value, .list address (index + 1))
  | .entries part address count index =>
      let entries ← Eval.entriesAt address
      if entries.length ≠ count then
        Eval.fail "RuntimeError" "dictionary changed size during iteration"
      return (entries[index]?).map fun entry =>
        (entryValue part entry, .entries part address count (index + 1))
  | .numbers next stop step =>
      if (0 < step ∧ next < stop) ∨ (step < 0 ∧ stop < next) then
        return some (.integer next, .numbers (next + step) stop step)
      else return none
  | .lines address =>
      let line ← Channel.readLine address none
      return if Channel.isEmpty line then none else some (line, .lines address)
  | .numbered source next =>
      return (← Evaluator.next source).map fun value =>
        (.tuple [.integer next, value], .numbered source (next + 1))
  | .zipped sources isStrict =>
      if sources.isEmpty then return none
      match ← nextOfAll sources with
      | some values => return some (.tuple values, course)
      | none =>
          if isStrict then needAllDone sources
          return none
  | .mapped function sources =>
      match ← nextOfAll sources with
      | some values => return some (← call function values, course)
      | none => return none
  | .filtered function source =>
      return (← nextFiltered function source mostValues).map (·, course)
  | .untilEqual function last =>
      let value ← call function []
      return if ← Evaluator.equal value last then none else some (value, course)
  | .elements object index =>
      match ← Kinds.special? object "__getitem__" with
      | none => return none
      | some function =>
          try
            let value ← call function [.ofNat index]
            return some (value, .elements object (index + 1))
          catch
            | .fault fault =>
                if ← isFaultOf "IndexError" fault then return none
                throw (.fault fault)
            | leap => throw leap

/-- The next value of an iterator. -/
def next (source : Value) : Eval (Option Value) := do
  match source with
  | .iterator address =>
      match ← Eval.object? address with
      | some (.course course) =>
          match ← onCourse course with
          | some (value, course) =>
              Eval.put address (.course course)
              return some value
          | none =>
              Eval.put address (.course (.values []))
              return none
      | _ => return none
  | .generator address =>
      match ← Evaluator.resume address .nothing with
      | .given value => return some value
      | .finished _ => return none
  | .channel address =>
      let line ← Channel.readLine address none
      return if Channel.isEmpty line then none else some line
  | source =>
      match ← Kinds.special? source "__next__" with
      | none =>
          Eval.typeFault ("'" ++ (← Kinds.nameOf source) ++ "' object is not an iterator")
      | some function =>
          try return some (← call function [])
          catch
            | .fault fault =>
                if ← isFaultOf "StopIteration" fault then return none
                throw (.fault fault)
            | leap => throw leap

/-! ## Texts of values -/

def hexadecimal (width : Nat) (value : Nat) : List Char :=
  let digits := Nat.toDigits 16 value
  List.replicate (width - digits.length) '0' ++ digits

def shownCharacter (quote : Char) (octets : Bool) (character : Char) : List Char :=
  let code := character.toNat
  if character = quote ∨ character = '\\' then ['\\', character]
  else if character = '\n' then ['\\', 'n']
  else if character = '\r' then ['\\', 'r']
  else if character = '\t' then ['\\', 't']
  else if code < 32 ∨ code = 127 ∨ (octets ∧ 127 < code) then '\\' :: 'x' :: hexadecimal 2 code
  else if octets then [character]
  else if let some octet := Coding.strayOctet? character then
    "\\udc".toList ++ hexadecimal 2 octet.toNat
  else if Text.isPrintable character then [character]
  else if code < 256 then '\\' :: 'x' :: hexadecimal 2 code
  else if code < 65536 then '\\' :: 'u' :: hexadecimal 4 code
  else '\\' :: 'U' :: hexadecimal 8 code

def quoted (octets : Bool) (characters : List Char) : List Char :=
  let quote := if characters.contains '\'' ∧ !characters.contains '"' then '"' else '\''
  quote :: characters.flatMap (shownCharacter quote octets) ++ [quote]

def separated (parts : List (List Char)) : List Char :=
  [',', ' '].intercalate parts

def shownAll (values : List Value) : Eval (List Char) :=
  return separated (← values.mapM Evaluator.shown)

def shownEntries (entries : List (Value × Value)) : Eval (List Char) := do
  return separated (← entries.mapM fun (key, value) => do
    return (← Evaluator.shown key) ++ ':' :: ' ' :: (← Evaluator.shown value))

/-- The text that tells apart a value that no family has a say in. -/
def shownCore (value : Value) : Eval (List Char) := do
  match value with
  | .nothing => return "None".toList
  | .ellipsis => return "Ellipsis".toList
  | .unfit => return "NotImplemented".toList
  | .truth value => return (if value then "True" else "False").toList
  | .integer value => return Text.integerText value
  | .real value => return Floating.text value
  | .text characters => return quoted false characters
  | .bytes octets => return 'b' :: quoted true octets
  | .octets address =>
      return "bytearray(b".toList ++ quoted true (← Eval.octetsAt address) ++ [')']
  | .tuple [value] => return '(' :: (← Evaluator.shown value) ++ [',', ')']
  | .tuple values => return '(' :: (← shownAll values) ++ [')']
  | .list address => return '[' :: (← shownAll (← Eval.listAt address)) ++ [']']
  | .set address =>
      match inPlaces (← Eval.listAt address) with
      | [] => return "set()".toList
      | values => return '\x7b' :: (← shownAll values) ++ ['\x7d']
  | .frozenSet address =>
      match inPlaces (← Eval.listAt address) with
      | [] => return "frozenset()".toList
      | values => return "frozenset(\x7b".toList ++ (← shownAll values) ++ ['\x7d', ')']
  | .dictionary address =>
      return '\x7b' :: (← shownEntries (← Eval.entriesAt address)) ++ ['\x7d']
  | .view part address =>
      let values := (← Eval.entriesAt address).map (entryValue part)
      return value.plainKind.toList ++ "([".toList ++ (← shownAll values) ++ "])".toList
  | .range start stop step =>
      let bounds := Text.integerText start ++ ',' :: ' ' :: Text.integerText stop
      return "range(".toList ++ bounds ++
        (if step = 1 then [] else ',' :: ' ' :: Text.integerText step) ++ [')']
  | .slice start stop step =>
      return "slice(".toList ++ (← shownAll [start, stop, step]) ++ [')']
  | .kind name => return ("<class '" ++ name ++ "'>").toList
  | .family _ => return ("<class '__main__." ++ (← Kinds.nameOfKind value) ++ "'>").toList
  | .library address =>
      match ← Eval.object? address with
      | some (.library name _) => return ("<module '" ++ name ++ "'>").toList
      | _ => return "<module>".toList
  | .routine name => return ("<built-in function " ++ name ++ ">").toList
  | .closure address =>
      match ← Eval.object? address with
      | some (.closure closure) =>
          return ("<function " ++ closure.name ++ " at 0x7f0000000000>").toList
      | _ => return "<function>".toList
  | .entity _ =>
      return ("<__main__." ++ (← Kinds.nameOf value) ++ " object at 0x7f0000000000>").toList
  | value => return ("<" ++ value.plainKind ++ " object at 0x7f0000000000>").toList

def faultDetails (fault : Value) : Eval (List Value) := do
  match fault with
  | .entity address =>
      match (← Eval.entityAt address).attributes.lookup "args" with
      | some (.tuple details) => return details
      | _ => return []
  | _ => return []

def needText (value : Value) : Eval (List Char) := do
  match ← Kinds.core value with
  | .text characters => return characters
  | _ => Eval.typeFault ("__str__ returned non-string (type " ++ (← Kinds.nameOf value) ++ ")")

def shown (value : Value) : Eval (List Char) := do
  match value with
  | .entity _ | .family _ =>
      match ← answer? value "__repr__" [] with
      | some found => needText found
      | none =>
          match ← Kinds.core value with
          | .entity _ =>
              if ← isFaultOf "BaseException" value then
                let details ← faultDetails value
                return (← Kinds.nameOf value).toList ++ '(' :: (← shownAll details) ++ [')']
              shownCore value
          | core => shownCore core
  | value => shownCore value

def systemFaultText? (fault : Value) : Eval (Option (List Char)) := do
  match fault with
  | .entity address =>
      let attributes := (← Eval.entityAt address).attributes
      match attributes.lookup "errno", attributes.lookup "strerror" with
      | some .nothing, _ | none, _ | _, none => return none
      | some number, some wording =>
          let plain (value : Value) : Eval (List Char) := do
            match value with
            | .text characters => return characters
            | value => Evaluator.shown value
          let front := "[Errno ".toList ++ (← plain number) ++ "] ".toList ++ (← plain wording)
          match attributes.lookup "filename", attributes.lookup "filename2" with
          | none, _ | some .nothing, _ => return some front
          | some path, some .nothing | some path, none =>
              return some (front ++ ": ".toList ++ (← Evaluator.shown path))
          | some path, some other =>
              return some (front ++ ": ".toList ++ (← Evaluator.shown path) ++ " -> ".toList ++
                (← Evaluator.shown other))
  | _ => return none

def codingFaultText? (details : List Value) : Option (List Char) :=
  match details with
  | [.text coding, .bytes octets, .integer start, .integer stop, .text reason] =>
      let octet := ((octets[start.toNat]?).getD ' ').toNat
      let place :=
        if stop = start + 1 then
          "byte 0x".toList ++ hexadecimal 2 octet ++ " in position ".toList ++
            Text.integerText start
        else "bytes in position ".toList ++ Text.integerText start ++ '-' ::
          Text.integerText (stop - 1)
      some ('\'' :: coding ++ "' codec can't decode ".toList ++ place ++ ": ".toList ++
        reason)
  | [.text coding, .text characters, .integer start, .integer _, .text reason] =>
      let character := (characters[start.toNat]?).getD ' '
      some ('\'' :: coding ++ "' codec can't encode character ".toList ++
        quoted false [character] ++ " in position ".toList ++ Text.integerText start ++
        ": ".toList ++ reason)
  | _ => none

def faultText (fault : Value) : Eval (List Char) := do
  let details ← faultDetails fault
  if ← isFaultOf "OSError" fault then
    if let some text := ← systemFaultText? fault then return text
  if ← isFaultOf "UnicodeError" fault then
    if let some text := codingFaultText? details then return text
  match details with
  | [] => return []
  | [.text characters] =>
      if ← isFaultOf "KeyError" fault then return quoted false characters
      return characters
  | [detail] =>
      if ← isFaultOf "KeyError" fault then Evaluator.shown detail
      else
        match ← answer? detail "__str__" [] with
        | some found => needText found
        | none => Evaluator.shown detail
  | details => shownCore (.tuple details)

def textOf (value : Value) : Eval (List Char) := do
  match value with
  | .text characters => return characters
  | .entity _ | .family _ =>
      match ← answer? value "__str__" [] with
      | some found => needText found
      | none =>
          match ← Kinds.core value with
          | .text characters =>
              match ← answer? value "__repr__" [] with
              | some found => needText found
              | none => return characters
          | _ =>
              if ← isFaultOf "BaseException" value then faultText value else shown value
  | value => shownCore value

end Protocol

end BuiltinWrappers.Script.Indented
