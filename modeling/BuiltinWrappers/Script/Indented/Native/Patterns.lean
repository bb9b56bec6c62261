import BuiltinWrappers.Script.Indented.Pattern.Matching
import BuiltinWrappers.Script.Indented.Routine

/-!
# Patterns in scripts

Patterns and texts come as values, and places of groups go back as pairs of numbers.
-/

namespace BuiltinWrappers.Script.Indented

open Text (Octets)

variable [Evaluator]

namespace Native.Patterns

def bit (flags : Int) (flag : Nat) : Bool := flags.toNat &&& flag != 0

def flagsOf (flags : Int) (isOctets : Bool) : Pattern.Flags :=
  { ignoresCase := bit flags 2, byLine := bit flags 8, dotIsAll := bit flags 16
    isVerbose := bit flags 64, isAscii := bit flags 256 || isOctets }

def numberOf (flags : Pattern.Flags) (isOctets : Bool) : Nat :=
  let part (isOn : Bool) (flag : Nat) : Nat := if isOn then flag else 0
  part flags.ignoresCase 2 + part flags.byLine 8 + part flags.dotIsAll 16 +
    part flags.isVerbose 64 +
    (if isOctets then 0 else if flags.isAscii then 256 else 32)

def subject (value : Value) : Eval (List Char × Bool) := do
  match ← Kinds.core value with
  | .text characters => return (characters, false)
  | core =>
      match ← Protocol.octetsOf? core with
      | some octets => return (octets, true)
      | none => Eval.typeFault "expected string or bytes-like object"

def patternOf (arguments : Arguments) : Eval (Except Pattern.Refusal Pattern.Whole × Bool) := do
  let (characters, isOctets) ← subject (← arguments.value 0 "pattern")
  let flags ← arguments.integer 1 "flags" 0
  return (Pattern.read (flagsOf flags isOctets) characters, isOctets)

def facts (arguments : Arguments) : Eval Value := do
  match ← patternOf arguments with
  | (.error refusal, _) =>
      return .tuple [.ofString refusal.reason, (refusal.place.map .ofNat).getD .nothing]
  | (.ok whole, isOctets) =>
      let names := whole.names.map fun (name, number) => (.ofString name, .ofNat number)
      return .tuple [.ofNat whole.count, ← Eval.newDictionary names,
        .ofNat (numberOf whole.flags isOctets)]

def placesOf (count start : Nat) (state : Pattern.State) : Value :=
  let pair (first last : Int) : Value := .tuple [.integer first, .integer last]
  let groups := (List.range count).map fun index =>
    match state.groups.lookup (index + 1) with
    | some (first, last) => pair first last
    | none => pair (-1) (-1)
  .tuple (pair start state.position :: groups)

/-- Match a pattern as the manner says: at a place, up to the end, anywhere, or everywhere. -/
def find (arguments : Arguments) : Eval Value := do
  let (whole?, isOctets) ← patternOf arguments
  let (characters, isText) ← subject (← arguments.value 2 "string")
  if isOctets ∧ !isText then
    Eval.typeFault "cannot use a bytes pattern on a string-like object"
  if isText ∧ !isOctets then
    Eval.typeFault "cannot use a string pattern on a bytes-like object"
  match whole? with
  | .error refusal => Eval.valueFault refusal.reason
  | .ok whole =>
      let text := characters.toArray
      let bounded (value : Int) : Nat := min (max value 0).toNat text.size
      let start := bounded (← arguments.integer 3 "pos" 0)
      let ground : Pattern.Ground :=
        { text, stop := bounded (← arguments.integer 4 "endpos" text.size) }
      let shown (found : Option (Nat × Pattern.State)) : Value :=
        match found with
        | some (start, state) => placesOf whole.count start state
        | none => .nothing
      if ground.stop < start then return shown none
      match ← arguments.text 5 "manner" "search" with
      | "match" =>
          return shown ((Pattern.matchAt whole ground start fun _ => true).map (start, ·))
      | "fullmatch" =>
          let found := Pattern.matchAt whole ground start fun state =>
            state.position = ground.stop
          return shown (found.map (start, ·))
      | "all" =>
          let found := Pattern.all whole ground (ground.stop + 2) false start
          Eval.newList (found.map fun match_ => shown (some match_))
      | _ =>
          return shown (Pattern.search whole ground false (ground.stop + 1 - start) start)

def names : List String := ["facts", "find"]

def call (name : String) (arguments : Arguments) : Eval Value :=
  if name = "facts" then facts arguments else find arguments

end Native.Patterns

end BuiltinWrappers.Script.Indented
