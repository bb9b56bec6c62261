import BuiltinWrappers.Script.Utility
import BuiltinWrappers.Text.Regex.Syntax

/-!
# Editing commands

A command of an edit has a selector for the lines it is for and an action.  A
list of them is read from a text.
-/

namespace BuiltinWrappers.Script.Edit

open Text (Octets Regex Grammar)

/-! ## Commands -/

inductive Address where
  | line (number : Nat)
  | lastLine
  | matching (regex : Option Regex) (ignoreCase : Bool)
  | every (first step : Nat)
  deriving Repr

inductive RangeEnd where
  | address (address : Address)
  | after (count : Nat)
  | multiple (factor : Nat)
  deriving Repr

structure Selector where
  first : Option Address := none
  last : Option RangeEnd := none
  negated : Bool := false
  deriving Repr

inductive CaseMode where
  | asIs
  | upper
  | lower
  | upperOne
  | lowerOne
  deriving DecidableEq, Repr

inductive ReplacementPart where
  | text (octets : Octets)
  | group (index : Nat)
  | mode (mode : CaseMode)
  deriving Repr

structure Substitution where
  regex : Option Regex
  replacement : List ReplacementPart
  everywhere : Bool := false
  number : Nat := 1
  print : Bool := false
  ignoreCase : Bool := false
  target : Option Octets := none
  deriving Repr

inductive Action where
  | opening
  | closing
  | substitute (substitution : Substitution)
  | exchange (source target : List Char)
  | delete
  | deleteFirst
  | print
  | printFirst
  | next
  | appendNext
  | hold
  | appendHold
  | get
  | appendGet
  | swap
  | append (text : Octets)
  | insert (text : Octets)
  | change (text : Octets)
  | quit (status : Nat)
  | leave (status : Nat)
  | lineNumber
  | fileName
  | reveal
  | clear
  | read (path : Octets)
  | write (path : Octets)
  | label (name : Octets)
  | branch (name : Octets)
  | branchIf (name : Octets)
  | branchUnless (name : Octets)
  deriving Repr

structure Command where
  selector : Selector
  action : Action
  deriving Repr

/-! ## Reading commands -/

def skipSpace (text : Octets) : Octets := text.dropWhile fun c => c = ' ' || c = '\t'

/-- The text up to a delimiter; a delimiter behind a backslash belongs to it. -/
def delimited? (delimiter : Char) (inRegex : Bool) : Octets → Option (Octets × Octets)
  | [] => none
  | '\\' :: character :: rest =>
      (delimited? delimiter inRegex rest).map fun (body, rest) =>
        if character = delimiter then (character :: body, rest)
        else if character = 'n' ∧ inRegex then ('\n' :: body, rest)
        else if character = 't' then ('\t' :: body, rest)
        else ('\\' :: character :: body, rest)
  | character :: rest =>
      if character = delimiter then some ([], rest)
      else
        (delimited? delimiter inRegex rest).map fun (body, rest) => (character :: body, rest)

def regex? (grammar : Grammar) (text : Octets) : Option (Option Regex) :=
  if text.isEmpty then some none else (Regex.parse? grammar text).map some

def number? (text : Octets) : Option (Nat × Octets) :=
  match text.takeWhile Char.isDigit with
  | [] => none
  | digits => some (Text.ofDigits 10 digits, text.drop digits.length)

def address? (grammar : Grammar) (text : Octets) : Option (Option Address × Octets) :=
  match text with
  | '$' :: rest => some (some .lastLine, rest)
  | '/' :: rest => regexAddress '/' rest
  | '\\' :: delimiter :: rest => regexAddress delimiter rest
  | text =>
      match number? text with
      | none => some (none, text)
      | some (first, '~' :: rest) =>
          let (step, rest) := (number? rest).getD (0, rest)
          some (some (.every first step), rest)
      | some (line, rest) => some (some (.line line), rest)
where
  regexAddress (delimiter : Char) (rest : Octets) : Option (Option Address × Octets) := do
    let (body, rest) ← delimited? delimiter true rest
    let regex ← regex? grammar body
    match rest with
    | 'I' :: rest => return (some (.matching regex true), rest)
    | rest => return (some (.matching regex false), rest)

def selector? (grammar : Grammar) (text : Octets) : Option (Selector × Octets) := do
  let (first, rest) ← address? grammar text
  let (last, rest) ←
    match first, skipSpace rest with
    | some _, ',' :: rest =>
        match skipSpace rest with
        | '+' :: rest => (number? rest).map fun (count, rest) => (some (RangeEnd.after count), rest)
        | '~' :: rest =>
            (number? rest).map fun (count, rest) => (some (RangeEnd.multiple count), rest)
        | rest => do
            let (last, rest) ← address? grammar rest
            match last with
            | none => none
            | some last => some (some (RangeEnd.address last), rest)
    | _, rest => some (none, rest)
  match skipSpace rest with
  | '!' :: rest => return (⟨first, last, true⟩, skipSpace rest)
  | rest => return (⟨first, last, false⟩, rest)

def replacement : Octets → List ReplacementPart
  | [] => []
  | '&' :: rest => .group 0 :: replacement rest
  | '\\' :: character :: rest =>
      let part : ReplacementPart :=
        match character with
        | 'U' => .mode .upper
        | 'L' => .mode .lower
        | 'u' => .mode .upperOne
        | 'l' => .mode .lowerOne
        | 'E' => .mode .asIs
        | 'n' => .text ['\n']
        | character =>
            if character.isDigit then .group (Text.ofDigits 10 [character])
            else .text [character]
      part :: replacement rest
  | character :: rest => .text [character] :: replacement rest

def flags : (fuel : Nat) → Substitution → Octets → Substitution × Octets
  | 0, substitution, text => (substitution, text)
  | fuel + 1, substitution, text =>
      match text with
      | 'g' :: rest => flags fuel { substitution with everywhere := true } rest
      | 'p' :: rest => flags fuel { substitution with print := true } rest
      | 'i' :: rest | 'I' :: rest => flags fuel { substitution with ignoreCase := true } rest
      | 'm' :: rest | 'M' :: rest => flags fuel substitution rest
      | 'w' :: rest =>
          let path := (skipSpace rest).takeWhile (· ≠ '\n')
          ({ substitution with target := some path }, (skipSpace rest).drop path.length)
      | text =>
          match number? text with
          | some (number, rest) => flags fuel { substitution with number } rest
          | none => (substitution, text)

def substitution? (grammar : Grammar) (text : Octets) : Option (Action × Octets) :=
  match text with
  | [] => none
  | delimiter :: rest => do
      let (expression, rest) ← delimited? delimiter true rest
      let (with_, rest) ← delimited? delimiter false rest
      let regex ← regex? grammar expression
      let (substitution, rest) :=
        flags (rest.length + 1) { regex, replacement := replacement with_ } rest
      return (.substitute substitution, rest)

def textLine : Octets → Octets × Octets
  | [] => ([], [])
  | '\n' :: rest => ([], rest)
  | '\\' :: character :: rest =>
      let (text, rest) := textLine rest
      (character :: text, rest)
  | character :: rest =>
      let (text, rest) := textLine rest
      (character :: text, rest)

def addedText (text : Octets) : Octets × Octets :=
  let text := skipSpace text
  let text :=
    match text with
    | '\\' :: rest =>
        match skipSpace rest with
        | '\n' :: rest => rest
        | _ => rest
    | text => text
  let (line, rest) := textLine text
  (line ++ ['\n'], rest)

def wordEnd (character : Char) : Bool := [' ', '\t', '\n', ';', '\x7d'].contains character

def labelName (text : Octets) : Octets × Octets :=
  let text := skipSpace text
  (text.takeWhile (!wordEnd ·), text.dropWhile (!wordEnd ·))

def pathText (text : Octets) : Octets × Octets :=
  let text := skipSpace text
  (text.takeWhile (· ≠ '\n'), text.dropWhile (· ≠ '\n'))

def status (text : Octets) : Nat × Octets :=
  (number? (skipSpace text)).getD (0, skipSpace text)

def action? (grammar : Grammar) : Octets → Option (Action × Octets)
  | [] => none
  | letter :: rest =>
      let plain (action : Action) : Option (Action × Octets) := some (action, rest)
      let named (action : Octets → Action) (split : Octets × Octets) : Option (Action × Octets) :=
        some (action split.1, split.2)
      match letter with
      | '\x7b' => plain .opening
      | '\x7d' => plain .closing
      | 's' => substitution? grammar rest
      | 'y' =>
          match rest with
          | [] => none
          | delimiter :: rest => do
              let (source, rest) ← delimited? delimiter true rest
              let (target, rest) ← delimited? delimiter true rest
              if source.length = target.length then some (.exchange source target, rest) else none
      | 'd' => plain .delete
      | 'D' => plain .deleteFirst
      | 'p' => plain .print
      | 'P' => plain .printFirst
      | 'n' => plain .next
      | 'N' => plain .appendNext
      | 'h' => plain .hold
      | 'H' => plain .appendHold
      | 'g' => plain .get
      | 'G' => plain .appendGet
      | 'x' => plain .swap
      | 'a' => named .append (addedText rest)
      | 'i' => named .insert (addedText rest)
      | 'c' => named .change (addedText rest)
      | 'q' => let (code, rest) := status rest; some (.quit code, rest)
      | 'Q' => let (code, rest) := status rest; some (.leave code, rest)
      | '=' => plain .lineNumber
      | 'F' => plain .fileName
      | 'l' => plain .reveal
      | 'z' => plain .clear
      | 'r' => named .read (pathText rest)
      | 'w' => named .write (pathText rest)
      | ':' => named .label (labelName rest)
      | 'b' => named .branch (labelName rest)
      | 't' => named .branchIf (labelName rest)
      | 'T' => named .branchUnless (labelName rest)
      | _ => none

def skipBetween : (fuel : Nat) → Octets → Octets
  | 0, text => text
  | fuel + 1, text =>
      match text with
      | ' ' :: rest | '\t' :: rest | '\n' :: rest | ';' :: rest => skipBetween fuel rest
      | '#' :: rest => skipBetween fuel (rest.dropWhile (· ≠ '\n'))
      | text => text

def endsCommand (text : Octets) : Bool :=
  (skipSpace text).head?.all fun character => ['\n', ';', '\x7d', '#'].contains character

def needsNoEnd : Action → Bool
  | .opening | .append _ | .insert _ | .change _ => true
  | _ => false

def commands? (grammar : Grammar) : (fuel : Nat) → Octets → Option (List Command)
  | 0, _ => none
  | fuel + 1, text =>
      match skipBetween (text.length + 1) text with
      | [] => some []
      | text => do
          let (selector, rest) ← selector? grammar text
          let (action, rest) ← action? grammar rest
          if needsNoEnd action ∨ endsCommand rest then
            return ⟨selector, action⟩ :: (← commands? grammar fuel rest)
          else none

def balanced : (depth : Nat) → List Command → Bool
  | depth, [] => depth = 0
  | depth, ⟨_, .opening⟩ :: rest => balanced (depth + 1) rest
  | 0, ⟨_, .closing⟩ :: _ => false
  | depth + 1, ⟨_, .closing⟩ :: rest => balanced depth rest
  | depth, _ :: rest => balanced depth rest

def parse? (grammar : Grammar) (text : Octets) : Option (List Command) :=
  (commands? grammar (text.length + 1) text).filter (balanced 0)

end BuiltinWrappers.Script.Edit
