import BuiltinWrappers.Script.Indented.Loading

/-!
# Running indented scripts

Calls, expressions, bodies and libraries need each other.  Each round of that need
has one less depth to its disposal, so that every run comes to an end.
-/

namespace BuiltinWrappers.Script.Indented

open Text (Octets)

/-! ## Calls -/

namespace Calls

variable [Evaluator]

def mostCalls : Nat := 1000

def callClosure (closure : Closure) (arguments : Arguments) : Eval Value := do
  let entries ← Parameters.bound closure arguments
  let scope ← Eval.allocate (.scope {
    level := .function, entries, names := closure.names, subject := (entries.head?).map Prod.snd })
  let scopes := scope :: closure.scopes
  if closure.names.yields then
    return .generator (← Eval.allocate (.generator {
      name := closure.name, scopes, frames := [.statements closure.body] }))
  let depth := (← get).depth
  if mostCalls ≤ depth then
    Eval.fail "RecursionError" "maximum recursion depth exceeded"
  modify fun machine => { machine with depth := depth + 1 }
  try
    let result ← Body.resultOf scopes closure.body
    modify fun machine => { machine with depth }
    return result
  catch leap =>
    modify fun machine => { machine with depth }
    throw leap

def call (function : Value) (arguments : Arguments) : Eval Value := do
  match function with
  | .closure address =>
      match ← Eval.object? address with
      | some (.closure closure) => callClosure closure arguments
      | _ => refuse function
  | .bound object inner =>
      Evaluator.call inner { arguments with plain := object :: arguments.plain }
  | .routine name =>
      if name.contains '.' then Native.call name arguments else Routine.callPlain name arguments
  | .method object name => Special.callMethod object name arguments
  | .kind "type" =>
      if arguments.plain.length = 3 then Families.newFamilyOf function arguments
      else Making.make "type" arguments
  | .kind name => Making.make name arguments
  | .family _ => Families.call function arguments
  | .detached inner => Evaluator.call inner arguments
  | .entity _ =>
      match ← Kinds.special? function "__call__" with
      | some inner => Evaluator.call inner arguments
      | none => refuse function
  | _ => refuse function
where
  refuse (function : Value) : Eval Value := do
    Eval.typeFault ("'" ++ (← Kinds.nameOf function) ++ "' object is not callable")

end Calls

/-! ## The evaluator -/

namespace Evaluation

def tooDeep {α : Type} : Eval α :=
  Eval.fail "RecursionError" "maximum recursion depth exceeded"

@[reducible] def around (inner : Evaluator) : Evaluator :=
  letI := inner
  { call := Calls.call
    next := Protocol.next
    equal := Protocol.equal
    less := Protocol.compare
    shown := Protocol.shown
    evaluate := Expressions.evaluate
    run := Body.run
    resume := Body.resume
    interrupt := Body.interrupt
    loadLibrary := Loading.load }

@[reducible] def evaluator : (depth : Nat) → Evaluator
  | 0 =>
      { call := fun _ _ => tooDeep
        next := fun _ => tooDeep
        equal := fun _ _ => tooDeep
        less := fun _ _ _ => tooDeep
        shown := fun _ => tooDeep
        evaluate := fun _ _ => tooDeep
        run := fun _ _ => tooDeep
        resume := fun _ _ => tooDeep
        interrupt := fun _ _ => tooDeep
        loadLibrary := fun _ => tooDeep }
  | depth + 1 => around (evaluator depth)

def deepest : Nat := 12000

/-! ## Whole scripts -/

def firstObjects (work : Work) (path : Option (List Char)) (words : List (List Char)) :
    Array Object :=
  let pair (entry : Octets × Octets) : Value × Value :=
    (.text (Coding.ofSystem entry.1), .text (Coding.ofSystem entry.2))
  let stream (name mode : String) (number : Nat) (isByLine : Bool) : Object :=
    .channel { goal := .stream number, shownName := .ofString name, mode, number, isByLine,
               isReadable := number = 0, isWritable := number ≠ 0 }
  let place := path.toList.map fun path => ("__file__", .text path)
  let script : Scope :=
    { level := .script
      entries := [("__name__", .ofString "__main__"), ("__doc__", .nothing),
        ("__package__", .nothing)] ++ place }
  let system : Scope :=
    { level := .script
      entries := [("__name__", .ofString "sys"), ("argv", .list Place.arguments),
        ("stdin", .channel Place.input), ("stdout", .channel Place.output),
        ("stderr", .channel Place.complaints)] }
  #[.scope script, .list (words.map .text), .dictionary (work.environment.map pair),
    stream "<stdin>" "r" 0 false, stream "<stdout>" "w" 1 false,
    stream "<stderr>" "w" 2 true,
    .channel { goal := .stream 1, shownName := .ofString "<stdout>", mode := "wb", number := 1,
               isBinary := true, isWritable := true },
    .scope system]

def complain (text : List Char) : Eval PUnit := do
  let _ ← Channel.write Place.complaints (.text (text ++ ['\n']))

variable [Evaluator]

def exitStatus (code : Value) : Eval Nat := do
  match code with
  | .nothing => return 0
  | .integer status => return (status % 256).toNat
  | .truth status => return if status then 1 else 0
  | code =>
      complain (← Protocol.textOf code)
      return 1

def statusOf (leap : Leap) : Eval Nat := do
  match leap with
  | .fault fault =>
      if ← Protocol.isFaultOf "SystemExit" fault then
        match ← Attributes.lookUp? fault "code" with
        | some code => exitStatus code
        | none => return 0
      else
        let text ← Protocol.faultText fault
        let name ← Kinds.nameOf fault
        complain (name.toList ++ (if text.isEmpty then [] else ':' :: ' ' :: text))
        return 1
  | _ => return 1

def statusAfter (act : Eval PUnit) : Eval Nat := do
  try
    act
    return 0
  catch
    | .halt status => throw (.halt status)
    | leap => statusOf leap

def endAll : Eval PUnit := do
  if let some address := (← get).libraries.lookup "atexit" then
    let _ ← Attributes.callMethod (.library address) "_run_exitfuncs" []

def prepare (path : Option (List Char)) : Eval PUnit := do
  let directory :=
    match path with
    | some path => (path.reverse.dropWhile (· ≠ '/')).tail.reverse
    | none => []
  let directory := if directory.isEmpty ∧ path.isSome ∧ path.any (·.head? = some '/')
    then ['/'] else directory
  let script ← Eval.allocate (.library "__main__" Place.globals)
  let modules ← Eval.newDictionary [(.ofString "__main__", .library script)]
  let directories ← Eval.newList [.text directory]
  Scopes.put Place.system "path" directories
  Scopes.put Place.system "modules" modules
  modify fun machine => { machine with libraries := [("__main__", script)] }

def runScript (path : Option (List Char)) (script : List Char) : Eval Nat := do
  match statements? script with
  | none =>
      complain "SyntaxError: invalid syntax".toList
      return 1
  | some (statements, _) =>
      try
        prepare path
        let status ← statusAfter do
          match Attributes.explanation statements with
          | .nothing => pure ()
          | text => Scopes.put Place.globals "__doc__" text
          Body.run [Place.globals] statements
        let _ ← statusAfter endAll
        Channel.flushAll
        return status
      catch
        | .halt status => return status
        | _ => return 1

end Evaluation

@[noinline] def Evaluation.runBy (evaluator : Evaluator) (path : Option (List Char))
    (script : List Char) : Eval Nat :=
  letI := evaluator
  Evaluation.runScript path script

/-! ## The program -/

namespace Program

inductive Source where
  | command (text : Octets) (words : List Octets)
  | file (path : Octets) (words : List Octets)
  | input (words : List Octets)
  | library (name : Octets) (words : List Octets)
  | version
  | misused

def sourceOf : List Octets → Source
  | [] => .input [[]]
  | ['-'] :: words => .input (['-'] :: words)
  | ['-', '-'] :: path :: words => .file path (path :: words)
  | ('-' :: letters) :: words =>
      match letters, words with
      | ['c'], text :: words => .command text (['-', 'c'] :: words)
      | ['c'], [] => .misused
      | 'c' :: text, words => .command text (['-', 'c'] :: words)
      | ['m'], name :: words => .library name (['-', 'm'] :: words)
      | 'm' :: name, words => if name.isEmpty then .misused
          else .library name (['-', 'm'] :: words)
      | ['W'], _ :: words | ['X'], _ :: words => sourceOf words
      | ['V'], _ | ['-', 'v', 'e', 'r', 's', 'i', 'o', 'n'], _ => .version
      | letters, words =>
          if letters.all ("BEIOPRbdiqsSuvx".toList.contains ·) then sourceOf words else .misused
  | path :: words => .file path (path :: words)

def start (commands : Commands) (path : Option Octets) (octets : Octets)
    (words : List Octets) : Job PUnit := do
  match Loading.scriptText? octets with
  | none =>
      Job.complainPlainly "SyntaxError: source code cannot be read".toList
      Job.setStatus 1
  | some script =>
      let work ← get
      let path := path.map Coding.ofSystem
      let store := Evaluation.firstObjects work path (words.map Coding.ofSystem)
      let machine : Machine :=
        { work, commands, store
          descriptors := [(0, Place.input), (1, Place.output), (2, Place.complaints)] }
      let evaluator := Evaluation.evaluator Evaluation.deepest
      let result : Except Leap Nat × Machine :=
        StateT.run (ExceptT.run (Evaluation.runBy evaluator path script)) machine
      set result.2.work
      Job.setStatus (result.1.toOption.getD 1)

end Program

def interpret (commands : Commands) : Utility := fun arguments => do
  let start := Program.start commands
  match Program.sourceOf arguments with
  | .command text words => start none text words
  | .input words => start none (← Job.readInput) words
  | .library name words =>
      start none ("import runpy\nrunpy.run_module('".toList ++ name ++
        "', run_name='__main__', alter_sys=True)\n".toList) words
  | .version => Job.printLine "Python 3.11.2".toList
  | .misused =>
      Job.complain "unknown option".toList
      Job.setStatus 2
  | .file path words =>
      match ← Job.read path with
      | .ok content => start (some path) content words
      | .error fault =>
          Job.complain ("can't open file ".toList ++ Job.quote path ++ ": ".toList ++
            Job.wording fault)
          Job.setStatus (if fault = .isDirectory then 1 else 2)

end BuiltinWrappers.Script.Indented
