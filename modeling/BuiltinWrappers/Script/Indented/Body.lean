import BuiltinWrappers.Script.Indented.Definitions

/-!
# Running bodies

A body is run statement by statement.  The frames of the statements that it is in
stand in a list, the innermost first, so a body that hands out a value can be left
and gone on with later.  A leap, such as a fault or a result, takes frames away
until one of them stops it.
-/

namespace BuiltinWrappers.Script.Indented

variable [Evaluator]

inductive Signal where
  | go
  | leap (leap : Leap)

inductive Progress where
  | going (frames : List Frame) (signal : Signal)
  | given (value : Value) (frames : List Frame)
  | finished (result : Value)

namespace Body

/-! ## Faults -/

def isCaught (fault : Value) : (fuel : Nat) → (wanted : Value) → Eval Bool
  | 0, _ => return false
  | fuel + 1, wanted => do
      match wanted with
      | .tuple kinds => kinds.anyM (isCaught fault fuel)
      | wanted =>
          if !wanted.isKind then
            Eval.typeFault
              "catching classes that do not inherit from BaseException is not allowed"
          Kinds.isWithin wanted (← Kinds.kindOf fault)

def handler? (scopes : List Nat) (fault : Value) :
    List Handler → Eval (Option (Option String × List Statement))
  | [] => return none
  | .mk none name body :: _ => return some (name, body)
  | .mk (some kind) name body :: handlers => do
      let wanted ← Evaluator.evaluate scopes kind
      if ← isCaught fault Families.deepestKinds wanted then return some (name, body)
      handler? scopes fault handlers

/-- A fault to be raised, made of its kind if only that is given. -/
def faultOf (value : Value) : Eval Value := do
  let fault ←
    if value.isKind then
      if ← Kinds.isWithin (.kind "BaseException") value then Protocol.call value []
      else pure value
    else pure value
  match fault with
  | .entity _ =>
      if ← Protocol.isFaultOf "BaseException" fault then return fault
      Eval.typeFault "exceptions must derive from BaseException"
  | _ => Eval.typeFault "exceptions must derive from BaseException"

/-- Raise a fault; the one that is being handled is its context. -/
def raised (fault : Value) (cause : Option Value) : Eval Progress := do
  let fault ← faultOf fault
  if let some context := (← get).handled.head? then
    if !Protocol.isSame context fault then Attributes.setOwn fault "__context__" context
  match cause with
  | some .nothing =>
      Attributes.setOwn fault "__cause__" .nothing
      Attributes.setOwn fault "__suppress_context__" (.truth true)
  | some cause =>
      Attributes.setOwn fault "__cause__" (← faultOf cause)
      Attributes.setOwn fault "__suppress_context__" (.truth true)
  | none => pure ()
  throw (.fault fault)

def enterHandling (fault : Value) : Eval PUnit :=
  modify fun machine => { machine with handled := fault :: machine.handled }

def leaveHandling : Eval PUnit :=
  modify fun machine => { machine with handled := machine.handled.tail }

/-! ## Resources -/

def protocolMethod (object : Value) (name : String) : Eval Value := do
  let found? ←
    match object with
    | .entity _ => Kinds.special? object name
    | object => Attributes.lookUp? object name
  match found? with
  | some function => return function
  | none =>
      Eval.typeFault ("'" ++ (← Kinds.nameOf object) ++
        "' object does not support the context manager protocol")

/-- Enter a resource, whose end is asked for before anything else is done with it. -/
def enterResource (scopes : List Nat) (resource : Expression) (target : Option Expression)
    (body : List Statement) (frames : List Frame) : Eval Progress := do
  let object ← Evaluator.evaluate scopes resource
  let enter ← protocolMethod object "__enter__"
  let exit ← protocolMethod object "__exit__"
  let value ← Protocol.call enter []
  let frames := .using exit :: frames
  try
    target.forM fun target => Definitions.assign scopes target value
    return .going (.statements body :: frames) .go
  catch leap => return .going frames (.leap leap)

def nothings : List Value := [.nothing, .nothing, .nothing]

def leaveResource (exit : Value) (leap : Leap) (frames : List Frame) : Eval Progress := do
  match leap with
  | .fault fault =>
      let kind ← Kinds.kindOf fault
      enterHandling fault
      let isStopped ←
        try
          let stops ← Protocol.call exit [kind, fault, .nothing]
          Protocol.isTrue stops
        catch leap =>
          leaveHandling
          throw leap
      leaveHandling
      return .going frames (if isStopped then .go else .leap leap)
  | .halt _ | .exhausted => return .going frames (.leap leap)
  | leap =>
      let _ ← Protocol.call exit nothings
      return .going frames (.leap leap)

/-! ## Handing out -/

def receive (scopes : List Nat) (name : String) (value : Value) : Eval PUnit :=
  Scopes.put (scopes.headD Place.globals) name value

def delegated (scopes : List Nat) (source : Value) (name : String) (frames : List Frame) :
    Handout → Eval Progress
  | .given value => return .given value (.delegating source name :: frames)
  | .finished result => do
      receive scopes name result
      return .going frames .go

def delegate (scopes : List Nat) (source sent : Value) (name : String) (frames : List Frame) :
    Eval Progress := do
  match source, sent with
  | .generator address, sent =>
      delegated scopes source name frames (← Evaluator.resume address sent)
  | source, .nothing =>
      match ← Evaluator.next source with
      | some value => return .given value (.delegating source name :: frames)
      | none =>
          receive scopes name .nothing
          return .going frames .go
  | source, sent =>
      let value ← Attributes.callMethod source "send" [sent]
      return .given value (.delegating source name :: frames)

/-! ## Statements -/

/-- Do what a statement says; the frames are those that it stands in. -/
def execute (scopes : List Nat) (statement : Statement) (frames : List Frame) :
    Eval Progress := do
  let evaluate := Evaluator.evaluate scopes
  let on : Progress := .going frames .go
  match statement with
  | .expression expression =>
      let _ ← evaluate expression
      return on
  | .assign targets value =>
      let value ← evaluate value
      targets.forM fun target => Definitions.assign scopes target value
      return on
  | .annotated target hint value =>
      if let some value := value then
        Definitions.assign scopes target (← evaluate value)
      Definitions.annotate scopes target hint
      return on
  | .augment target operator value =>
      Definitions.augment scopes target operator value
      return on
  | .conditional condition body otherwise =>
      let body := if ← Protocol.isTrue (← evaluate condition) then body else otherwise
      return if body.isEmpty then on else .going (.statements body :: frames) .go
  | .loop condition body otherwise => return .going (.loop condition body otherwise :: frames) .go
  | .each target source body otherwise =>
      let source ← Protocol.iterator (← evaluate source)
      return .going (.each source target body otherwise :: frames) .go
  | .definition decorators definition =>
      let decorators ← decorators.mapM evaluate
      let function ← Definitions.function scopes definition
      Scopes.assign scopes definition.name (← Definitions.decorated decorators function)
      return on
  | .family decorators arguments definition =>
      let decorators ← decorators.mapM evaluate
      let family ← Definitions.family scopes arguments definition
      Scopes.assign scopes definition.name (← Definitions.decorated decorators family)
      return on
  | .result value => throw (.result (← evaluate value))
  | .give receiver value delegates =>
      let value ← evaluate value
      if delegates then
        return .going (.delegating (← Protocol.iterator value) receiver :: frames) .go
      if receiver.isEmpty then return .given value frames
      return .given value (.receiving receiver :: frames)
  | .load name library wholePath =>
      Definitions.load scopes name library wholePath
      return on
  | .loadFrom level library entries =>
      Definitions.loadFrom scopes level library entries
      return on
  | .using resource target body => enterResource scopes resource target body frames
  | .attempt body handlers otherwise afterwards =>
      return .going (.statements body :: .attempt handlers otherwise afterwards :: frames) .go
  | .choose subject choices =>
      let body ← Shapes.chosen scopes (← evaluate subject) choices
      return .going (.statements body :: frames) .go
  | .raised (some fault) cause =>
      let fault ← evaluate fault
      raised fault (← cause.mapM evaluate)
  | .raised none _ =>
      match (← get).handled.head? with
      | some fault => throw (.fault fault)
      | none => Eval.fail "RuntimeError" "No active exception to reraise"
  | .pass => return on
  | .leave => throw .leave
  | .nextRound => throw .nextRound
  | .delete targets =>
      targets.forM (Definitions.delete scopes)
      return on
  | .assertion condition reason =>
      if ← Protocol.isTrue (← evaluate condition) then return on
      Eval.raise "AssertionError" (← reason.toList.mapM evaluate)

/-! ## Frames -/

/-- Go on in the innermost frame; the others stand around it. -/
def goOn (scopes : List Nat) (frame : Frame) (frames : List Frame) : Eval Progress := do
  match frame with
  | .statements [] => return .going frames .go
  | .statements [statement] => execute scopes statement frames
  | .statements (statement :: rest) => execute scopes statement (.statements rest :: frames)
  | .loop condition body otherwise =>
      if ← Protocol.isTrue (← Evaluator.evaluate scopes condition) then
        return .going (.statements body :: frame :: frames) .go
      return .going (.statements otherwise :: frames) .go
  | .each source target body otherwise =>
      match ← Evaluator.next source with
      | some value =>
          Definitions.assign scopes target value
          return .going (.statements body :: frame :: frames) .go
      | none => return .going (.statements otherwise :: frames) .go
  | .attempt _ otherwise afterwards =>
      return .going (.statements otherwise :: .afterwards afterwards :: frames) .go
  | .afterwards statements => return .going (.statements statements :: frames) .go
  | .handling _ name =>
      leaveHandling
      name.forM (Scopes.forget scopes)
      return .going frames .go
  | .leaping leap => return .going frames (.leap leap)
  | .using exit =>
      let _ ← Protocol.call exit nothings
      return .going frames .go
  | .receiving name =>
      receive scopes name .nothing
      return .going frames .go
  | .delegating source name => delegate scopes source .nothing name frames

def isFinal : Leap → Bool
  | .halt _ | .exhausted => true
  | _ => false

/-- Leap out of the innermost frame, unless it stops the leap. -/
def leapOut (scopes : List Nat) (leap : Leap) (frame : Frame) (frames : List Frame) :
    Eval Progress := do
  let out : Progress := .going frames (.leap leap)
  match frame with
  | .loop _ _ _ | .each _ _ _ _ =>
      match leap with
      | .leave => return .going frames .go
      | .nextRound => return .going (frame :: frames) .go
      | _ => return out
  | .attempt handlers _ afterwards =>
      let frames := .afterwards afterwards :: frames
      match leap with
      | .fault fault =>
          try
            match ← handler? scopes fault handlers with
            | some (name, body) =>
                enterHandling fault
                name.forM fun name => Scopes.assign scopes name fault
                return .going (.statements body :: .handling fault name :: frames) .go
            | none => return .going frames (.leap leap)
          catch leap => return .going frames (.leap leap)
      | leap => return .going frames (.leap leap)
  | .afterwards statements =>
      if statements.isEmpty ∨ isFinal leap then return out
      return .going (.statements statements :: .leaping leap :: frames) .go
  | .handling _ name =>
      leaveHandling
      name.forM (Scopes.forget scopes)
      return out
  | .using exit => leaveResource exit leap frames
  | _ => return out

def step (scopes : List Nat) (signal : Signal) (frame : Frame) (frames : List Frame) :
    Eval Progress := do
  try
    match signal with
    | .go => goOn scopes frame frames
    | .leap leap => leapOut scopes leap frame frames
  catch leap => return .going frames (.leap leap)

def advance (scopes : List Nat) : (fuel : Nat) → List Frame → Signal → Eval Progress
  | 0, _, _ => throw .exhausted
  | fuel + 1, frames, signal => do
      match frames, signal with
      | [], .go => return .finished .nothing
      | [], .leap (.result value) => return .finished value
      | [], .leap leap => throw leap
      | frame :: frames, signal =>
          match ← step scopes signal frame frames with
          | .going frames signal => advance scopes fuel frames signal
          | progress => return progress

def mostSteps : Nat := 20000000

def inUse {α : Type} (scopes : List Nat) (act : Eval α) : Eval α := do
  let before := (← get).active
  modify fun machine => { machine with active := scopes.headD Place.globals :: before }
  try
    let result ← act
    modify fun machine => { machine with active := before }
    return result
  catch leap =>
    modify fun machine => { machine with active := before }
    throw leap

def resultOf (scopes : List Nat) (statements : List Statement) : Eval Value :=
  inUse scopes do
    match ← advance scopes mostSteps [.statements statements] .go with
    | .finished result => return result
    | _ => return .nothing

def run (scopes : List Nat) (statements : List Statement) : Eval PUnit := do
  let _ ← resultOf scopes statements

/-! ## Bodies that wait -/

def handledIn (frames : List Frame) : List Value :=
  frames.filterMap fun frame =>
    match frame with
    | .handling fault _ => some fault
    | _ => none

def saveGenerator (address : Nat) (generator : Generator) : Eval PUnit :=
  Eval.put address (.generator generator)

/-- Go on with a body that waits, from what it does first to its next value or its end. -/
def goOnWith (address : Nat) (generator : Generator)
    (first : List Frame → Eval Progress) : Eval Handout := do
  if generator.isRunning then Eval.valueFault "generator already executing"
  let frames := generator.frames
  let scopes := generator.scopes
  saveGenerator address { generator with isStarted := true, isRunning := true }
  let before := (← get).handled
  modify fun machine => { machine with handled := handledIn frames ++ before }
  let stopped : Generator := { generator with frames := [], isStarted := true }
  try
    let progress ← inUse scopes do
      match ← first frames with
      | .going frames signal => advance scopes mostSteps frames signal
      | progress => return progress
    modify fun machine => { machine with handled := before }
    match progress with
    | .given value frames =>
        saveGenerator address { stopped with frames }
        return .given value
    | .finished result =>
        saveGenerator address stopped
        return .finished result
    | .going _ _ =>
        saveGenerator address stopped
        return .finished .nothing
  catch leap =>
    modify fun machine => { machine with handled := before }
    saveGenerator address stopped
    match leap with
    | .fault fault =>
        if ← Protocol.isFaultOf "StopIteration" fault then
          Eval.fail "RuntimeError" "generator raised StopIteration"
        throw (.fault fault)
    | leap => throw leap

def resume (address : Nat) (sent : Value) : Eval Handout := do
  match ← Eval.object? address with
  | some (.generator generator) =>
      if generator.frames.isEmpty ∧ !generator.isRunning then return .finished .nothing
      goOnWith address generator fun frames => do
        match frames with
        | .receiving name :: frames =>
            receive generator.scopes name sent
            return .going frames .go
        | .delegating source name :: frames =>
            try delegate generator.scopes source sent name frames
            catch leap => return .going frames (.leap leap)
        | frames =>
            if !generator.isStarted then
              match sent with
              | .nothing => pure ()
              | _ => Eval.typeFault "can't send non-None value to a just-started generator"
            return .going frames .go
  | _ => Eval.typeFault "not a generator"

def interrupt (address : Nat) (fault : Value) : Eval Handout := do
  match ← Eval.object? address with
  | some (.generator generator) =>
      if generator.frames.isEmpty ∧ !generator.isRunning then throw (.fault fault)
      if !generator.isStarted then
        saveGenerator address { generator with frames := [], isStarted := true }
        throw (.fault fault)
      goOnWith address generator fun frames => do
        match frames with
        | .receiving _ :: frames => return .going frames (.leap (.fault fault))
        | .delegating (.generator inner) name :: frames =>
            try
              if ← Protocol.isFaultOf "GeneratorExit" fault then
                let _ ← Attributes.callMethod (.generator inner) "close" []
                return .going frames (.leap (.fault fault))
              delegated generator.scopes (.generator inner) name frames
                (← Evaluator.interrupt inner fault)
            catch leap => return .going frames (.leap leap)
        | .delegating _ _ :: frames => return .going frames (.leap (.fault fault))
        | frames => return .going frames (.leap (.fault fault))
  | _ => Eval.typeFault "not a generator"

end Body

end BuiltinWrappers.Script.Indented
