import BuiltinWrappers.Script.Record.Machine
import BuiltinWrappers.Script.Record.Reading

/-!
# Running record scripts

Rules are tried on every record in order.  How deep expressions and statements
stand in one another is bounded, and so is the number of rounds of a loop.
-/

namespace BuiltinWrappers.Script.Record

open Text (Octets Regex)

structure Runner where
  evaluate : Expression → Eval Value
  run : List Statement → Eval PUnit

namespace Evaluation

/-! ## Targets -/

def key (self : Runner) (indices : List Expression) : Eval Octets := do
  let texts ← indices.mapM fun index => do Eval.textOf (← self.evaluate index)
  return (← Eval.textOfScalar "SUBSEP").intercalate texts

def fieldIndex (self : Runner) (index : Expression) : Eval Nat := do
  let number := Value.truncated (← self.evaluate index).toNumber
  if number < 0 then Eval.break_ "negative field index".toList
  return number.toNat

inductive Target where
  | name (name : String)
  | field (index : Nat)
  | element (array : Nat) (key : Octets)

def target (self : Runner) : Expression → Eval Target
  | .name name => return .name name
  | .field index => return .field (← fieldIndex self index)
  | .element array indices => do
      let key ← key self indices
      return .element (← Eval.arrayOf array) key
  | _ => Eval.break_ "not a target".toList

def load : Target → Eval Value
  | .name name => Eval.value name
  | .field index => Eval.field index
  | .element array key => Eval.entry array key

def store (place : Target) (value : Value) : Eval PUnit :=
  match place with
  | .name name => Eval.setValue name value
  | .field index => Eval.setField index value
  | .element array key => Eval.setEntry array key value

/-! ## Operators -/

def power (base : Rat) : Nat → Rat
  | 0 => 1
  | exponent + 1 => base * power base exponent

def rootScale : Nat := Nat.pow 10 24

def squareRoot (value : Rat) : Rat :=
  let scaled := value.num.toNat * rootScale * rootScale / value.den
  mkRat (root scaled.log2 scaled) rootScale
where
  root (fuel value : Nat) : Nat :=
    (List.range (fuel + 8)).foldl (fun guess _ =>
      if guess = 0 then 0 else (guess + value / guess) / 2) (Nat.pow 2 (value.log2 / 2 + 1))

def raised (base exponent : Rat) : Rat :=
  if exponent.den = 1 then
    let size := min exponent.num.natAbs 4096
    if exponent < 0 then 1 / power base size else power base size
  else if exponent = 1 / 2 ∧ 0 ≤ base then squareRoot base
  else 0

def binary (operator : String) (first second : Rat) : Eval Rat := do
  match operator with
  | "+" => return first + second
  | "-" => return first - second
  | "*" => return first * second
  | "^" => return raised first second
  | operator =>
      if second = 0 then Eval.break_ "division by zero".toList
      if operator = "/" then return first / second
      else return first - second * mkRat (Value.truncated (first / second)) 1

def holds (operator : String) (order : Ordering) : Bool :=
  match operator with
  | "<" => order == .lt
  | "<=" => order != .gt
  | "==" => order == .eq
  | "!=" => order != .eq
  | ">" => order == .gt
  | _ => order != .lt

/-! ## Expressions -/

def pattern (self : Runner) (expression : Expression) : Eval Regex := do
  let source ←
    match expression with
    | .regex source => pure source
    | expression => do Eval.textOf (← self.evaluate expression)
  match regexOf? source with
  | some regex => return regex
  | none => Eval.break_ ("regular expression compile failed: ".toList ++ source)

def slot (self : Runner) (argument : Expression) : Eval Slot := do
  match argument with
  | .name name => return { value := ← Eval.value name, array := ← Eval.arrayOf name }
  | argument => return { value := ← self.evaluate argument, array := ← Eval.newArray }

def call (self : Runner) (name : String) (arguments : List Expression) : Eval Value := do
  match (← get).functions.find? (·.name = name) with
  | none => Eval.break_ ("function ".toList ++ name.toList ++ " never defined".toList)
  | some function =>
      let given ← arguments.mapM (slot self)
      let missing ← (function.parameters.drop given.length).mapM fun _ => do
        return { value := .unset, array := ← Eval.newArray : Slot }
      let before := (← get).frame
      let frame := function.parameters.zip (given ++ missing)
      modify fun machine => { machine with frame := some frame }
      let restore : Eval PUnit := modify fun machine => { machine with frame := before }
      try
        self.run function.body
        restore
        return .unset
      catch
        | .result value =>
            restore
            return value
        | leap =>
            restore
            throw leap

def textArgument (self : Runner) (arguments : List Expression) (index : Nat) : Eval Octets := do
  match arguments[index]? with
  | some argument => Eval.textOf (← self.evaluate argument)
  | none => return []

def numberArgument (self : Runner) (arguments : List Expression) (index : Nat) : Eval Rat := do
  match arguments[index]? with
  | some argument => return (← self.evaluate argument).toNumber
  | none => return 0

def rounded (value : Rat) : Int := (value + 1 / 2).floor

def part (text : Octets) (start : Int) (size : Option Int) : Octets :=
  let last : Int := text.length + 1
  let stop := (size.map (start + ·)).getD last
  let first := max start 1
  let stop := min stop last
  (text.drop (first - 1).toNat).take (stop - first).toNat

def exchange (self : Runner) (all : Bool) (arguments : List Expression) : Eval Value := do
  let regex ← pattern self (arguments.headD (.text []))
  let new ← textArgument self arguments 1
  let place ← target self ((arguments[2]?).getD (.field (.number 0)))
  let text ← Eval.textOf (← load place)
  let (after, count) := exchanged regex all new (2 * text.length + 2) false { rest := text }
  if count ≠ 0 then store place (.text after)
  return .ofNat count

def splitInto (self : Runner) (arguments : List Expression) : Eval Value := do
  let text ← textArgument self arguments 0
  let separator ←
    match (arguments[2]? : Option Expression) with
    | none => Eval.textOfScalar "FS"
    | some (.regex source) => pure (if source.length = 1 then '\\' :: source else source)
    | some argument => Eval.textOf (← self.evaluate argument)
  let array ←
    match (arguments[1]? : Option Expression) with
    | some (.name name) => Eval.arrayOf name
    | _ => Eval.newArray
  let parts := fieldsOf separator text
  Eval.setEntries array (parts.zipIdx.map fun (part, index) =>
    (Text.decimalText (index + 1), .input part))
  return .ofNat parts.length

/-- The size of an array, or else of a text. -/
def size (self : Runner) (arguments : List Expression) : Eval Value := do
  match arguments with
  | [] => return .ofNat (← get).record.length
  | .name name :: _ =>
      let value ← Eval.value name
      let entries ← Eval.entries (← Eval.arrayOf name)
      match value, entries with
      | .unset, entries => return .ofNat entries.length
      | value, _ => return .ofNat (← Eval.textOf value).length
  | _ => return .ofNat (← textArgument self arguments 0).length

def routine (self : Runner) (name : String) (arguments : List Expression) : Eval Value := do
  let text := textArgument self arguments
  let number := numberArgument self arguments
  match name with
  | "length" => size self arguments
  | "substr" =>
      let whole ← text 0
      let start := rounded (← number 1)
      let size ← if arguments.length < 3 then pure none else some <$> rounded <$> number 2
      return .text (part whole start size)
  | "index" =>
      let whole ← text 0
      let sought ← text 1
      let found := (List.range (whole.length + 1)).find? fun place =>
        sought.isPrefixOf (whole.drop place)
      return .ofNat ((found.map (· + 1)).getD 0)
  | "split" => splitInto self arguments
  | "sub" => exchange self false arguments
  | "gsub" => exchange self true arguments
  | "match" =>
      let whole ← text 0
      let regex ← pattern self ((arguments[1]?).getD (.text []))
      let (start, size) : Nat × Int :=
        match regex.search false { rest := whole } with
        | some found => (found.start + 1, found.length)
        | none => (0, -1)
      Eval.putScalar "RSTART" (.ofNat start)
      Eval.putScalar "RLENGTH" (.number (mkRat size 1))
      return .ofNat start
  | "sprintf" =>
      let form ← text 0
      let values ← arguments.tail.mapM self.evaluate
      return .text (Form.filled (← Eval.conversion) (form.length + 1) values form)
  | "int" => return .number (mkRat (Value.truncated (← number 0)) 1)
  | "sqrt" => return .number (squareRoot (← number 0))
  | "tolower" => return .text ((← text 0).map Char.toLower)
  | "toupper" => return .text ((← text 0).map Char.toUpper)
  | "system" => return .ofNat (← Eval.runCommand (← text 0) [])
  | "close" => return .number (mkRat (← Eval.close (← text 0)) 1)
  | "rand" => return .number (1 / 2)
  | _ => return .ofNat 0

def takeLine (self : Runner) (place : Option Expression) (line : Octets) : Eval PUnit := do
  match place with
  | some place => store (← target self place) (.input line)
  | none => Eval.setRecord line

def line (self : Runner) (origin : Origin) (place : Option Expression) : Eval Value := do
  let found ←
    match origin with
    | .records => some <$> Eval.readRecord?
    | .file path => do Eval.sourceLine? (← Eval.textOf (← self.evaluate path)) false
    | .command text => do
        let found ← Eval.sourceLine? (← Eval.textOf (← self.evaluate text)) true
        if (found.bind id).isSome then
          Eval.increase "NR"
          Eval.increase "FNR"
        pure found
  match found with
  | none => return .number (-1)
  | some none => return .number 0
  | some (some line) =>
      takeLine self place line
      return .number 1

def evaluate (self : Runner) (expression : Expression) : Eval Value := do
  let evaluate := self.evaluate
  match expression with
  | .number value => return .number value
  | .text octets => return .text octets
  | .regex source =>
      let regex ← pattern self (.regex source)
      return .ofBool (regex.occursIn false (← get).record)
  | .name name => Eval.value name
  | .field index => Eval.field (← fieldIndex self index)
  | .element array indices =>
      let key ← key self indices
      Eval.entry (← Eval.arrayOf array) key
  | .assign place operator value =>
      if operator.isEmpty then
        let value ← evaluate value
        store (← target self place) value
        return value
      else
        let value ← evaluate value
        let place ← target self place
        let result ← binary operator (← load place).toNumber value.toNumber
        store place (.number result)
        return .number result
  | .stepped place amount before =>
      let place ← target self place
      let old := (← load place).toNumber
      let new := old + mkRat amount 1
      store place (.number new)
      return .number (if before then new else old)
  | .conditional condition first second =>
      if (← evaluate condition).isTrue then evaluate first else evaluate second
  | .both first second =>
      if (← evaluate first).isTrue then return .ofBool (← evaluate second).isTrue
      else return .ofBool false
  | .either first second =>
      if (← evaluate first).isTrue then return .ofBool true
      else return .ofBool (← evaluate second).isTrue
  | .unary "!" operand => return .ofBool (!(← evaluate operand).isTrue)
  | .unary "-" operand => return .number (-(← evaluate operand).toNumber)
  | .unary _ operand => return .number (← evaluate operand).toNumber
  | .binary operator left right =>
      let left ← evaluate left
      return .number (← binary operator left.toNumber (← evaluate right).toNumber)
  | .joined left right =>
      let left ← Eval.textOf (← evaluate left)
      return .text (left ++ (← Eval.textOf (← evaluate right)))
  | .comparison operator left right =>
      let left ← evaluate left
      let right ← evaluate right
      return .ofBool (holds operator (Value.compare (← Eval.conversion) left right))
  | .matching wanted subject expression =>
      let text ← Eval.textOf (← evaluate subject)
      let regex ← pattern self expression
      return .ofBool (regex.occursIn false text == wanted)
  | .isIndex indices array =>
      let key ← key self indices
      let entries ← Eval.entries (← Eval.arrayOf array)
      return .ofBool (entries.any (·.1 = key))
  | .call name arguments => call self name arguments
  | .routine name arguments => routine self name arguments
  | .line origin place => line self origin place
  | .group inner =>
      match inner with
      | [only] => evaluate only
      | _ => Eval.break_ "not a value".toList

/-! ## Statements -/

/-- Run the body of a loop once; whether the loop goes on. -/
def round (self : Runner) (body : List Statement) : Eval Bool := do
  try
    self.run body
    return true
  catch
    | .leave => return false
    | .nextRound => return true
    | leap => throw leap

def rounds (self : Runner) (condition : Option Expression) (step body : List Statement) :
    (fuel : Nat) → Eval PUnit
  | 0 => throw .exhausted
  | fuel + 1 => do
      let goesOn ←
        match condition with
        | some condition => pure (← self.evaluate condition).isTrue
        | none => pure true
      if goesOn then
        if ← round self body then
          self.run step
          rounds self condition step body fuel

def mostRounds : Nat := 100000

def eachKey (self : Runner) (name : String) (body : List Statement) : List Octets → Eval PUnit
  | [] => return
  | key :: keys => do
      Eval.setValue name (.input key)
      if ← round self body then eachKey self name body keys

def send (self : Runner) (goal : Goal) (text : Octets) : Eval PUnit := do
  match goal with
  | .output => Eval.print text
  | .over path => Eval.putFile (← Eval.textOf (← self.evaluate path)) text false
  | .behind path => Eval.putFile (← Eval.textOf (← self.evaluate path)) text true
  | .command line => Eval.putPipe (← Eval.textOf (← self.evaluate line)) text

def printed (self : Runner) (formatted : Bool) (arguments : List Expression) : Eval Octets := do
  let values ← arguments.mapM self.evaluate
  if formatted then
    match values with
    | [] => return []
    | form :: values =>
        let form ← Eval.textOf form
        return Form.filled (← Eval.conversion) (form.length + 1) values form
  else
    let ending ← Eval.textOfScalar "ORS"
    if values.isEmpty then return (← get).record ++ ending
    let form ← Eval.textOfScalar "OFMT"
    let texts := values.map (Value.toText form)
    return (← Eval.textOfScalar "OFS").intercalate texts ++ ending

def statement (self : Runner) (statement : Statement) : Eval PUnit := do
  match statement with
  | .expression expression =>
      let _ ← self.evaluate expression
  | .print formatted arguments goal => send self goal (← printed self formatted arguments)
  | .conditional condition body otherwise =>
      if (← self.evaluate condition).isTrue then self.run body else self.run otherwise
  | .loop condition body => rounds self (some condition) [] body mostRounds
  | .loopAfter body condition =>
      if ← round self body then rounds self (some condition) [] body mostRounds
  | .counted start condition step body =>
      self.run start
      rounds self condition step body mostRounds
  | .each name array body =>
      let entries ← Eval.entries (← Eval.arrayOf array)
      eachKey self name body (entries.map Prod.fst)
  | .leave => throw .leave
  | .nextRound => throw .nextRound
  | .nextRecord => throw .nextRecord
  | .nextFile => throw .nextFile
  | .finish status =>
      if let some status := status then
        let status := Value.truncated (← self.evaluate status).toNumber
        let _ ← Eval.job (Job.setStatus (status % 256).toNat)
      throw .finish
  | .result value =>
      match value with
      | some value => throw (.result (← self.evaluate value))
      | none => throw (.result .unset)
  | .delete array indices =>
      let index ← Eval.arrayOf array
      match indices with
      | none => Eval.setEntries index []
      | some indices =>
          let key ← key self indices
          Eval.setEntries index ((← Eval.entries index).filter (·.1 ≠ key))

def runner : (depth : Nat) → Runner
  | 0 => { evaluate := fun _ => throw .exhausted, run := fun _ => throw .exhausted }
  | depth + 1 =>
      let self := runner depth
      { evaluate := evaluate self, run := fun statements => statements.forM (statement self) }

def deepest : Nat := 1000

/-! ## Rules -/

def inRange (self : Runner) (index : Nat) (start stop : Expression) : Eval Bool := do
  let active := (← get).ranges.contains index
  let begins ← if active then pure true else pure (← self.evaluate start).isTrue
  if !begins then return false
  let ends := (← self.evaluate stop).isTrue
  modify fun machine => { machine with
    ranges := (if ends then [] else [index]) ++ machine.ranges.filter (· ≠ index) }
  return true

def applyRule (self : Runner) (index : Nat) (rule : Rule) : Eval PUnit := do
  let selected ←
    match rule.pattern with
    | .first | .last => pure false
    | .always => pure true
    | .holds condition => pure (← self.evaluate condition).isTrue
    | .range start stop => inRange self index start stop
  if selected then
    match rule.action with
    | some body => self.run body
    | none => Eval.print ((← get).record ++ (← Eval.textOfScalar "ORS"))

def applyRules (self : Runner) (rules : List Rule) : Eval PUnit := do
  try rules.zipIdx.forM fun (rule, index) => applyRule self index rule
  catch
    | .nextRecord => pure ()
    | .nextFile => modify fun machine => { machine with pending := none }
    | leap => throw leap

def mostRecords : Nat := 1000000

def eachRecord (self : Runner) (rules : List Rule) : (fuel : Nat) → Eval PUnit
  | 0 => throw .exhausted
  | fuel + 1 => do
      if let some record ← Eval.readRecord? then
        Eval.setRecord record
        applyRules self rules
        eachRecord self rules fuel

def isFirst (rule : Rule) : Bool :=
  match rule.pattern with
  | .first => true
  | _ => false

def isLast (rule : Rule) : Bool :=
  match rule.pattern with
  | .last => true
  | _ => false

def runScript (script : RuleSet) : Eval PUnit := do
  let self := runner deepest
  let rules := script.rules
  let bodies (chosen : Rule → Bool) : List (List Statement) :=
    (rules.filter chosen).filterMap Rule.action
  let untilFinished (act : Eval PUnit) : Eval PUnit := do
    try act
    catch
      | .finish => pure ()
      | leap => throw leap
  untilFinished do
    (bodies isFirst).forM self.run
    if rules.any (!isFirst ·) then eachRecord self rules mostRecords
  untilFinished ((bodies isLast).forM self.run)
  Eval.closeAll

end Evaluation

/-! ## The program -/

structure Request where
  separator : Option Octets := none
  settings : List Octets := []
  scripts : List Octets := []
  operands : List Octets := []

def Request.parse? : (fuel : Nat) → Request → List Octets → Option Request
  | 0, request, operands => some { request with operands }
  | fuel + 1, request, words =>
      match words with
      | ['-', '-'] :: rest => some { request with operands := rest }
      | ['-', 'F'] :: separator :: rest =>
          parse? fuel { request with separator := some separator } rest
      | ('-' :: 'F' :: separator) :: rest =>
          parse? fuel { request with separator := some separator } rest
      | ['-', 'v'] :: setting :: rest =>
          parse? fuel { request with settings := request.settings ++ [setting] } rest
      | ('-' :: 'v' :: setting) :: rest =>
          parse? fuel { request with settings := request.settings ++ [setting] } rest
      | ['-', 'f'] :: path :: rest =>
          parse? fuel { request with scripts := request.scripts ++ [path] } rest
      | ('-' :: 'f' :: path) :: rest =>
          parse? fuel { request with scripts := request.scripts ++ [path] } rest
      | ('-' :: _ :: _) :: _ => none
      | operands => some { request with operands }

def firstScalars : List (String × Value) :=
  [("FS", .text [' ']), ("OFS", .text [' ']), ("RS", .text ['\n']), ("ORS", .text ['\n']),
   ("SUBSEP", .text ['\x1c']), ("CONVFMT", .text "%.6g".toList), ("OFMT", .text "%.6g".toList),
   ("NR", .number 0), ("FNR", .number 0), ("FILENAME", .text []), ("RSTART", .number 0),
   ("RLENGTH", .number (-1))]

def start (request : Request) (script : RuleSet) (operands : List Octets) : Eval PUnit := do
  let work := (← get).work
  let environment ← Eval.arrayOf "ENVIRON"
  Eval.setEntries environment (work.environment.map fun (name, value) => (name, .input value))
  let arguments ← Eval.arrayOf "ARGV"
  Eval.setEntries arguments ((work.name :: operands).zipIdx.map fun (word, index) =>
    (Text.decimalText index, .input word))
  Eval.putScalar "ARGC" (.ofNat (operands.length + 1))
  if let some separator := request.separator then
    let meant := Token.unescape (separator.length + 1) separator
    Eval.putScalar "FS" (.text (if meant = ['t'] then ['\t'] else meant))
  request.settings.forM Eval.setByOperand
  Evaluation.runScript script

def awk (commands : Commands) : Utility := fun words => do
  match Request.parse? (words.length + 1) {} words with
  | none => Job.abort 2 "unknown option".toList
  | some request =>
      let texts ← request.scripts.mapM fun path => do
        match ← Job.read path with
        | .ok content => pure content
        | .error fault =>
            Job.abort 2 ("cannot open ".toList ++ path ++ " (".toList ++ Job.wording fault ++ [')'])
      let (text, operands) :=
        if request.scripts.isEmpty then (request.operands.headD [], request.operands.tail)
        else (texts.flatMap (· ++ ['\n']), request.operands)
      match RuleSet.ofText? text with
      | none => Job.abort 2 "syntax error".toList
      | some script =>
          let machine : Machine :=
            { work := ← get, commands, functions := script.functions, scalars := firstScalars,
              operands }
          let (_, machine) := StateT.run (ExceptT.run (start request script operands)) machine
          set machine.work

end BuiltinWrappers.Script.Record
