import BuiltinWrappers.Host.Directory
import BuiltinWrappers.Text.Digits
import BuiltinWrappers.Text.Octets

/-!
# Utilities

A utility is a command that no shell needs to know.  It works on its arguments,
its input and the files of the host, and prints its output and its complaints in
the order in which they come.
-/

namespace BuiltinWrappers.Script

open Text (Octets)

/-! ## Work in progress -/

/--
What a utility has to work with.  The output goes to the file at `target`, if to
any file, and is put in at `targetPosition` at first.
-/
structure Work where
  name : Octets
  host : Host
  input : Octets := []
  inputRead : Bool := false
  inputIsFile : Bool := false
  source : Option Location := none
  sources : List (Octets × Octets) := []
  target : Option Location := none
  targetPosition : Nat := 0
  environment : List (Octets × Octets) := []
  printed : List (Bool × Octets) := []
  status : Nat := 0

abbrev Job := ExceptT PUnit (StateM Work)

namespace Job

def stop {α : Type} : Job α := throw PUnit.unit

def print (text : Octets) : Job PUnit :=
  modify fun work => { work with printed := (false, text) :: work.printed }

def printLine (text : Octets) : Job PUnit := print (text ++ ['\n'])

def complainPlainly (text : Octets) : Job PUnit :=
  modify fun work => { work with printed := (true, text ++ ['\n']) :: work.printed }

def complain (text : Octets) : Job PUnit := do
  complainPlainly ((← get).name ++ ": ".toList ++ text)

def failWith (status : Nat) : Job PUnit :=
  modify fun work => { work with status := max work.status status }

def fail : Job PUnit := failWith 1

def setStatus (status : Nat) : Job PUnit := modify fun work => { work with status }

def abort {α : Type} (status : Nat) (text : Octets) : Job α := do
  complain text
  setStatus status
  stop

def misuse {α : Type} (status : Nat) (text : Octets) : Job α := do
  complain text
  let name := (← get).name
  complainPlainly ("Try '".toList ++ name ++ " --help' for more information.".toList)
  setStatus status
  stop

def readInput : Job Octets := do
  let text := (← get).input
  modify fun work => { work with input := [], inputRead := true }
  return text

def run (task : Job PUnit) (work : Work) : Work :=
  (StateT.run (ExceptT.run task) work).2

/-! ## Files -/

def host : Job Host := return (← get).host

def setHost (host : Host) : Job PUnit := modify fun work => { work with host }

def locate (path : Octets) : Job (Except SystemFault (Location × Option Node)) := do
  return (← host).locate path.toString

def locateEntry (path : Octets) : Job (Except SystemFault (Location × Option Node)) := do
  return (← host).locateEntry path.toString

def wording (fault : SystemFault) : Octets := fault.wording.toList

def quote (text : Octets) : Octets := '\'' :: text ++ ['\'']

def isNothing (path : Octets) : Bool := path = "/dev/null".toList

def isEndless (path : Octets) : Bool :=
  ["/dev/zero", "/dev/urandom", "/dev/random"].contains (String.ofList path)

def endlessPart : Octets := List.replicate 200000 '\x00'

def read (path : Octets) : Job (Except SystemFault Octets) := do
  if path = ['-'] ∨ path = "/dev/stdin".toList then return .ok (← readInput)
  else if isNothing path then return .ok []
  else if isEndless path then return .ok endlessPart
  else if let some text := (← get).sources.lookup path then return .ok text
  else
    match ← locate path with
    | .error fault => return .error fault
    | .ok (_, none) => return .error .notFound
    | .ok (_, some (.file content _)) => return .ok (Octets.ofBytes content)
    | .ok (_, some (.directory _)) => return .error .isDirectory
    | .ok (_, some (.link _)) => return .error .tooManyLinks

def write (path content : Octets) : Job (Except SystemFault PUnit) := do
  if isNothing path then return .ok ()
  else if path = "/dev/stdout".toList then
    print content
    return .ok ()
  else
    match ← locate path with
    | .error fault => return .error fault
    | .ok (location, _) =>
        match (← host).replaceContent location (Octets.toBytes content) with
        | .error fault => return .error fault
        | .ok host => do
            setHost host
            return .ok ()

def forFiles (paths : List Octets) (act : Octets → Octets → Job PUnit) : Job PUnit :=
  (if paths.isEmpty then [['-']] else paths).forM fun path => do
    match ← read path with
    | .ok content => act path content
    | .error fault =>
        complain (path ++ ": ".toList ++ wording fault)
        fail

def readAll (paths : List Octets) : Job Octets := do
  let contents ← (if paths.isEmpty then [['-']] else paths).mapM fun path => do
    match ← read path with
    | .ok content => return content
    | .error fault =>
        complain (path ++ ": ".toList ++ wording fault)
        fail
        return []
  return contents.flatten

end Job

/-! ## Contents -/

def overwritten (content : Octets) (position : Nat) (text : Octets) : Octets :=
  let gap := List.replicate (position - content.length) '\x00'
  content.take position ++ gap ++ text ++ content.drop (position + text.length)

/-! ## Lines -/

def linesOf (text : Octets) : List Octets :=
  match text with
  | [] => []
  | text => if text.getLast? = some '\n' then text.dropLast.splitOn '\n' else text.splitOn '\n'

def unlines (lines : List Octets) : Octets := lines.flatMap (· ++ ['\n'])

def partsEndingIn (delimiter : Char) (text : Octets) : List Octets :=
  let parts := text.splitOn delimiter
  parts.dropLast.map (· ++ [delimiter]) ++ parts.getLast?.toList.filter (· ≠ [])

def wholeLines (text : Octets) : List Octets := partsEndingIn '\n' text

/-! ## Options -/

structure OptionSet where
  flags : String
  valued : String := ""
  long : List (String × Char) := []
  inFront : Bool := false

structure Options where
  given : List (Char × Octets) := []
  operands : List Octets := []

namespace Options

def has (options : Options) (letter : Char) : Bool := options.given.any (·.1 = letter)

def hasAny (options : Options) (letters : String) : Bool :=
  letters.toList.any options.has

def value? (options : Options) (letter : Char) : Option Octets :=
  (options.given.reverse.find? (·.1 = letter)).map Prod.snd

def values (options : Options) (letter : Char) : List Octets :=
  (options.given.filter (·.1 = letter)).map Prod.snd

end Options

inductive OptionFault where
  | unknown (letter : Char)
  | unrecognized (word : Octets)
  | noValue (letter : Char)
  deriving DecidableEq, Repr

def OptionFault.text : OptionFault → Octets
  | .unknown letter => "invalid option -- ".toList ++ Job.quote [letter]
  | .unrecognized word => "unrecognized option ".toList ++ Job.quote word
  | .noValue letter => "option requires an argument -- ".toList ++ Job.quote [letter]

namespace OptionSet

def cluster (set : OptionSet) : List Char → (following : List Octets) →
    Except OptionFault (List (Char × Octets) × List Octets)
  | [], following => .ok ([], following)
  | letter :: rest, following =>
      if set.valued.toList.contains letter then
        match rest, following with
        | [], [] => .error (.noValue letter)
        | [], value :: following => .ok ([(letter, value)], following)
        | rest, following => .ok ([(letter, rest)], following)
      else if set.flags.toList.contains letter then
        (cluster set rest following).map fun (given, following) =>
          ((letter, []) :: given, following)
      else .error (.unknown letter)

def letter? (set : OptionSet) (name : Octets) : Option Char :=
  match set.long.find? (·.1.toList = name) with
  | some (_, letter) => some letter
  | none =>
      match (set.long.filter fun entry => name.isPrefixOf entry.1.toList).map Prod.snd with
      | letter :: others => if others.all (· = letter) then some letter else none
      | [] => none

def longOption (set : OptionSet) (word : Octets) (following : List Octets) :
    Except OptionFault (List (Char × Octets) × List Octets) :=
  let name := (word.drop 2).takeWhile (· ≠ '=')
  match set.letter? name, (word.drop 2).dropWhile (· ≠ '=') with
  | none, _ => .error (.unrecognized word)
  | some letter, '=' :: value => .ok ([(letter, value)], following)
  | some letter, _ =>
      if set.valued.toList.contains letter then
        match following with
        | [] => .error (.noValue letter)
        | value :: following => .ok ([(letter, value)], following)
      else .ok ([(letter, [])], following)

def parseWithin (set : OptionSet) : (fuel : Nat) → List Octets → Except OptionFault Options
  | 0, _ | _, [] => .ok {}
  | fuel + 1, word :: words =>
      if word = ['-', '-'] then .ok { operands := words }
      else if word.take 2 = ['-', '-'] then do
        let (given, words) ← set.longOption word words
        let options ← parseWithin set fuel words
        return { options with given := given ++ options.given }
      else if word.head? = some '-' ∧ word ≠ ['-'] then do
        let (given, words) ← set.cluster word.tail words
        let options ← parseWithin set fuel words
        return { options with given := given ++ options.given }
      else if set.inFront then .ok { operands := word :: words }
      else do
        let options ← parseWithin set fuel words
        return { options with operands := word :: options.operands }

def parse (set : OptionSet) (words : List Octets) : Except OptionFault Options :=
  set.parseWithin (words.length + 1) words

end OptionSet

namespace Job

def optionsOr (status : Nat) (set : OptionSet) (words : List Octets) : Job Options := do
  match set.parse words with
  | .ok options => return options
  | .error fault => misuse status fault.text

def options (set : OptionSet) (words : List Octets) : Job Options := optionsOr 1 set words

def needOperand (options : Options) (missing : String) : Job PUnit := do
  if options.operands.isEmpty then misuse 1 missing.toList

end Job

/-! ## Commands that utilities start -/

structure Outcome where
  host : Host
  output : Octets
  complaints : Octets
  status : Nat

abbrev Commands := List Octets → Octets → Host → Outcome

def shellWords (line : Octets) : List Octets := ["sh".toList, "-c".toList, line]

/-! ## Running utilities -/

abbrev Utility := List Octets → Job PUnit

end BuiltinWrappers.Script
