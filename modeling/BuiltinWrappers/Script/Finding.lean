import BuiltinWrappers.Script.Fields
import BuiltinWrappers.Script.Session
import BuiltinWrappers.Script.Utility.Listing
import BuiltinWrappers.Script.Utility.Paths

/-!
# Finding files

Directories are walked from the top down, or from the bottom up, and each file on
the way is put to a condition, parts of which act on it.
-/

namespace BuiltinWrappers.Script.Finding

open Text (Octets Pattern)

inductive Condition where
  | holds (value : Bool)
  | name (pattern : Pattern) (ignoreCase : Bool)
  | path (pattern : Pattern)
  | kind (letters : Octets)
  | void
  | size (sign : Option Char) (count : Nat) (unit : Char)
  | executable
  | mode (sign : Option Char) (bits : Nat)
  | linkTarget (pattern : Pattern)
  | print (ending : Char)
  | printFormatted (format : Octets)
  | delete
  | prune
  | quit
  | execute (words : List Octets) (gathering : Bool)
  | negation (inner : Condition)
  | both (first second : Condition)
  | either (first second : Condition)

structure Plan where
  starts : List Octets
  condition : Condition
  least : Nat := 0
  most : Option Nat := none
  bottomUp : Bool := false

/-! ## Reading conditions -/

abbrev Reading := Option (Condition × List Octets)

structure Global where
  least : Nat := 0
  most : Option Nat := none
  bottomUp : Bool := false

def globals : Global → List Octets → Global × List Octets
  | global, [] => (global, [])
  | global, word :: rest =>
      match String.ofList word, rest with
      | "-maxdepth", count :: rest =>
          globals { global with most := some (Text.ofDigits 10 count) } rest
      | "-mindepth", count :: rest => globals { global with least := Text.ofDigits 10 count } rest
      | "-depth", rest => globals { global with bottomUp := true } rest
      | "-mount", rest | "-xdev", rest => globals global rest
      | "-delete", rest =>
          let (global, rest) := globals { global with bottomUp := true } rest
          (global, word :: rest)
      | _, rest =>
          let (global, rest) := globals global rest
          (global, word :: rest)

def pattern (text : Octets) : Pattern := Pattern.ofGlyphs (Text.activeGlyphs text)

def commandWords : List Octets → Option (List Octets × Bool × List Octets)
  | [] => none
  | [';'] :: rest => some ([], false, rest)
  | ['\x7b', '\x7d'] :: ['+'] :: rest => some ([], true, rest)
  | word :: rest => (commandWords rest).map fun (words, gathering, rest) =>
      (word :: words, gathering, rest)

def sizeCondition (text : Octets) : Condition :=
  let (sign, digits) : Option Char × Octets :=
    match text with
    | '+' :: digits => (some '+', digits)
    | '-' :: digits => (some '-', digits)
    | digits => (none, digits)
  .size sign (Text.ofDigits 10 (digits.takeWhile Char.isDigit))
    ((digits.dropWhile Char.isDigit).headD 'b')

def modeCondition? (text : Octets) : Option Condition :=
  let (sign, word) : Option Char × Octets :=
    match text with
    | '-' :: word => (some '-', word)
    | '/' :: word => (some '/', word)
    | word => (none, word)
  (Permission.changed? 0 false 0 word).map (.mode sign)

mutual

def disjunction : (fuel : Nat) → List Octets → Reading
  | 0, _ => none
  | fuel + 1, words => do
      let (first, rest) ← conjunction fuel words
      match rest with
      | word :: rest =>
          if word = "-o".toList ∨ word = "-or".toList then
            let (second, rest) ← disjunction fuel rest
            return (.either first second, rest)
          else return (first, word :: rest)
      | [] => return (first, [])

def conjunction : (fuel : Nat) → List Octets → Reading
  | 0, _ => none
  | fuel + 1, words => do
      let (first, rest) ← primary fuel words
      match rest with
      | [] => return (first, [])
      | word :: others =>
          if word = "-o".toList ∨ word = "-or".toList ∨ word = [')'] then return (first, rest)
          else
            let (second, rest) ←
              conjunction fuel (if word = "-a".toList ∨ word = "-and".toList then others else rest)
            return (.both first second, rest)

def primary : (fuel : Nat) → List Octets → Reading
  | 0, _ => none
  | fuel + 1, words => do
      match words with
      | [] => none
      | ['!'] :: rest =>
          let (inner, rest) ← primary fuel rest
          return (.negation inner, rest)
      | ['('] :: rest =>
          let (inner, rest) ← disjunction fuel rest
          match rest with
          | [')'] :: rest => return (inner, rest)
          | _ => none
      | word :: rest =>
          match String.ofList word, rest with
          | "-not", rest =>
              let (inner, rest) ← primary fuel rest
              return (.negation inner, rest)
          | "-name", text :: rest => return (.name (pattern text) false, rest)
          | "-iname", text :: rest => return (.name (pattern (text.map Char.toLower)) true, rest)
          | "-path", text :: rest | "-wholename", text :: rest =>
              return (.path (pattern text), rest)
          | "-type", letters :: rest => return (.kind letters, rest)
          | "-size", text :: rest => return (sizeCondition text, rest)
          | "-newer", _ :: rest => return (.holds false, rest)
          | "-perm", text :: rest => return (← modeCondition? text, rest)
          | "-lname", text :: rest => return (.linkTarget (pattern text), rest)
          | "-executable", rest => return (.executable, rest)
          | "-readable", rest | "-writable", rest | "-true", rest => return (.holds true, rest)
          | "-false", rest => return (.holds false, rest)
          | "-empty", rest => return (.void, rest)
          | "-print", rest => return (.print '\n', rest)
          | "-print0", rest => return (.print '\x00', rest)
          | "-printf", format :: rest => return (.printFormatted format, rest)
          | "-delete", rest => return (.delete, rest)
          | "-prune", rest => return (.prune, rest)
          | "-quit", rest => return (.quit, rest)
          | "-exec", rest | "-execdir", rest =>
              let (words, gathering, rest) ← commandWords rest
              return (.execute words gathering, rest)
          | _, _ => none

end

def Condition.acts : Condition → Bool
  | .print _ | .printFormatted _ | .delete | .quit | .execute _ _ => true
  | .negation inner => inner.acts
  | .both first second | .either first second => first.acts || second.acts
  | _ => false

def plan? (words : List Octets) : Option Plan := do
  let begins (word : Octets) : Bool :=
    word.head? = some '-' && 1 < word.length || word = ['('] || word = ['!']
  let starts := words.takeWhile (!begins ·)
  let (global, words) := globals {} (words.drop starts.length)
  let (condition, rest) ←
    if words.isEmpty then some (.holds true, []) else disjunction (4 * words.length + 4) words
  if !rest.isEmpty then none
  let condition := if condition.acts then condition else .both condition (.print '\n')
  return {
    starts := if starts.isEmpty then [['.']] else starts
    condition, least := global.least, most := global.most, bottomUp := global.bottomUp }

/-! ## Walking -/

structure Visit where
  start : Octets
  path : Octets
  location : Location
  depth : Nat

structure Walk where
  gathered : List (List Octets × Octets) := []
  pruned : Bool := false
  ended : Bool := false
  failed : Bool := false

def isVoid (host : Host) (location : Location) : Bool :=
  match host.tree.node? location with
  | some (.file content _) => content.size = 0
  | some (.directory _) => (host.tree.children location).isEmpty
  | some (.link _) | none => false

def sizeHolds (sign : Option Char) (count : Nat) (unit : Char) (node : Node) : Bool :=
  let width :=
    match unit with
    | 'c' => 1
    | 'w' => 2
    | 'k' => 1024
    | 'M' => 1048576
    | _ => 512
  let units := (node.size + width - 1) / width
  match sign with
  | some '+' => count < units
  | some _ => units < count
  | none => units = count

def filledIn (path word : Octets) : Octets :=
  match word with
  | '\x7b' :: '\x7d' :: rest => path ++ filledIn path rest
  | character :: rest => character :: filledIn path rest
  | [] => []

abbrev Executor := List Octets → Act Unit

def kindLetter : Node → Char
  | .file _ _ => 'f'
  | .directory _ => 'd'
  | .link _ => 'l'

def formatField (visit : Visit) (node : Node) : Char → Octets
  | 'p' => visit.path
  | 'f' => lastName visit.path
  | 'h' => parentPath visit.path
  | 'P' => (visit.path.drop visit.start.length).dropWhile (· = '/')
  | 'H' => visit.start
  | 's' => Text.decimalText node.size
  | 'd' => Text.decimalText visit.depth
  | 'm' => Nat.toDigits 8 node.mode
  | 'M' => rights node
  | 'y' => [kindLetter node]
  | 'u' | 'g' => "root".toList
  | 'l' =>
      match node with
      | .link target => Octets.ofString target
      | _ => []
  | '%' => ['%']
  | letter => ['%', letter]

def formatted (visit : Visit) (node : Node) : Octets → Octets
  | '%' :: letter :: rest => formatField visit node letter ++ formatted visit node rest
  | '\\' :: 'n' :: rest => '\n' :: formatted visit node rest
  | '\\' :: 't' :: rest => '\t' :: formatted visit node rest
  | '\\' :: '0' :: rest => '\x00' :: formatted visit node rest
  | '\\' :: '\\' :: rest => '\\' :: formatted visit node rest
  | character :: rest => character :: formatted visit node rest
  | [] => []

def delete (visit : Visit) : Act Bool := do
  let host ← Act.host
  match host.tree.node? visit.location with
  | some (.directory _) =>
      if visit.path = ['.'] then return true
      else if isVoid host visit.location then
        Act.setHost (host.remove visit.location)
        return true
      else return false
  | some _ =>
      Act.setHost (host.remove visit.location)
      return true
  | none => return false

def meets (execute : Executor) (visit : Visit) (node : Node) :
    Condition → Walk → Act (Bool × Walk)
  | .holds value, walk => return (value, walk)
  | .name pattern ignoreCase, walk =>
      let name := lastName visit.path
      return (pattern.matchesText (if ignoreCase then name.map Char.toLower else name), walk)
  | .path pattern, walk => return (pattern.matchesText visit.path, walk)
  | .kind letters, walk =>
      return (letters.contains (kindLetter node), walk)
  | .void, walk => return (isVoid (← Act.host) visit.location, walk)
  | .size sign count unit, walk => return (sizeHolds sign count unit node, walk)
  | .executable, walk => do
      let host ← Act.host
      let aim := ((host.locate visit.path.toString).toOption.bind Prod.snd).getD node
      return (aim.isDirectory || aim.isExecutable, walk)
  | .mode sign bits, walk =>
      let holds :=
        match sign with
        | some '-' => node.mode &&& bits == bits
        | some _ => bits == 0 || node.mode &&& bits != 0
        | none => node.mode == bits
      return (holds, walk)
  | .linkTarget pattern, walk =>
      match node with
      | .link target => return (pattern.matchesText (Octets.ofString target), walk)
      | _ => return (false, walk)
  | .printFormatted format, walk => do
      Act.print (formatted visit node format)
      return (true, walk)
  | .print ending, walk => do
      Act.print (visit.path ++ [ending])
      return (true, walk)
  | .delete, walk => do
      let deleted ← delete visit
      return (deleted, { walk with failed := walk.failed || !deleted })
  | .prune, walk => return (true, { walk with pruned := true })
  | .quit, walk => return (true, { walk with ended := true })
  | .execute words gathering, walk => do
      if gathering then
        return (true, { walk with gathered := (words, visit.path) :: walk.gathered })
      else
        execute (words.map (filledIn visit.path))
        return ((← Act.status) = 0, walk)
  | .negation inner, walk => do
      let (holds, walk) ← meets execute visit node inner walk
      return (!holds, walk)
  | .both first second, walk => do
      let (holds, walk) ← meets execute visit node first walk
      if holds then meets execute visit node second walk else return (false, walk)
  | .either first second, walk => do
      let (holds, walk) ← meets execute visit node first walk
      if holds then return (true, walk) else meets execute visit node second walk

def check (execute : Executor) (plan : Plan) (visit : Visit) (walk : Walk) : Act Walk := do
  match (← Act.host).tree.node? visit.location with
  | none => return walk
  | some node =>
      if walk.ended ∨ visit.depth < plan.least then return walk
      else return (← meets execute visit node plan.condition walk).2

def walkFrom (execute : Executor) (plan : Plan) : (fuel : Nat) → Visit → Walk → Act Walk
  | 0, _, walk => return walk
  | fuel + 1, visit, walk => do
      let walk ←
        if plan.bottomUp then pure walk
        else check execute plan visit { walk with pruned := false }
      let goesOn := (plan.most.map fun most => decide (visit.depth < most)).getD true
      let mut walk := walk
      if goesOn ∧ !(walk.pruned && !plan.bottomUp) then
        for name in (← Act.host).tree.children visit.location do
          if !walk.ended then
            let next : Visit :=
              { visit with
                path := within visit.path (Octets.ofString name)
                location := visit.location ++ [name]
                depth := visit.depth + 1 }
            walk ← walkFrom execute plan fuel next walk
      if plan.bottomUp then check execute plan visit walk else return { walk with pruned := false }

def deepest : Nat := 100

def gatheredCommands (gathered : List (List Octets × Octets)) : List (List Octets) :=
  let inOrder := gathered.reverse
  (inOrder.map Prod.fst).eraseDups.map fun words =>
    words ++ (inOrder.filter (·.1 = words)).map Prod.snd

def find (execute : Executor) (words : List Octets) : Act Unit := do
  match plan? words with
  | none =>
      let _ ← Act.write 2 "find: invalid expression\n".toList
      Act.setStatus 1
  | some plan =>
      let mut walk : Walk := {}
      for start in plan.starts do
        let host ← Act.host
        match host.locateEntry start.toString with
        | .ok (location, some _) =>
            walk ← walkFrom execute plan deepest { start, path := start, location, depth := 0 } walk
        | _ =>
            let _ ← Act.write 2
              ("find: '".toList ++ start ++ "': No such file or directory\n".toList)
            walk := { walk with failed := true }
      let mut failed := walk.failed
      for command in gatheredCommands walk.gathered do
        execute command
        if (← Act.status) ≠ 0 then failed := true
      Act.setStatus (if failed then 1 else 0)

end BuiltinWrappers.Script.Finding
