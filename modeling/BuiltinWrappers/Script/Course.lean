import BuiltinWrappers.Script.OwnCommand
import BuiltinWrappers.Script.Redirection
import BuiltinWrappers.Script.Syntax.Commands

/-!
# The course of a script

A text is read and run line by line, so a fault of syntax stops what follows it
and nothing before it.  A shell ends when its text does or when it leaves; what
it was told to do at its end is done then.
-/

namespace BuiltinWrappers.Script

open Text (Octets)

/-! ## Texts -/

def faultOfSyntax (fault : SyntaxFault) : Octets :=
  match fault with
  | .unexpected rest =>
      let near := (Parser.leadingRun rest)
      let near := if near.isEmpty then rest.take 1 else near
      "Syntax error: ".toList ++ Job.quote near ++ " unexpected".toList
  | .unfinished => "Syntax error: end of file unexpected".toList
  | .badSubstitution => "Bad substitution".toList
  | .tooDeep => "Syntax error: nested too deeply".toList

def refuseSyntax (fault : SyntaxFault) : Act Unit := do
  Act.complain (faultOfSyntax fault)
  Act.setStatus 2
  if (← Act.dialect) = .plain then throw .leave

/-- Run the lines of a text, given how many of them there are; whether there was any item. -/
def runLines (run : Runner) (total : Nat) : (fuel : Nat) → (any : Bool) → Octets → Act Bool
  | 0, _, _ => throw .exhausted
  | fuel + 1, any, text => do
      match Parser.line? (← Act.dialect) total text with
      | .error fault =>
          refuseSyntax fault
          return true
      | .ok (none, _) => return any
      | .ok (some items, rest) =>
          if !(← Act.shell).modes.onlyReads then run items
          runLines run total fuel true rest

def runText (run : Runner) (text : Octets) : Act Unit := do
  let any ← runLines run (text.count '\n') (text.length + 1) false text
  if !any then Act.setStatus 0

/-- Run the lines of a script, where some faults break off one line only. -/
def runScriptLines (run : Runner) (total : Nat) : (fuel : Nat) → Octets → Act Unit
  | 0, _ => throw .exhausted
  | fuel + 1, text => do
      match Parser.line? (← Act.dialect) total text with
      | .error fault => refuseSyntax fault
      | .ok (none, _) => return
      | .ok (some items, rest) =>
          try
            if !(← Act.shell).modes.onlyReads then run items
          catch escape =>
            if escape ≠ .leaveLine then throw escape
          runScriptLines run total fuel rest

def runScript (run : Runner) (text : Octets) : Act Unit :=
  runScriptLines run (text.count '\n') (text.length + 1) text

/-! ## Shells from their start to their end -/

def exitTrap : Octets := "EXIT".toList

def dropTrap (name : Octets) : Act Unit :=
  Act.changeShell fun shell => { shell with traps := shell.traps.filter (·.1 ≠ name) }

def wholeShell (run : Runner) (act : Act Unit) : Act Unit := do
  let outcome : Option Escape ← try act; pure none catch escape => pure (some escape)
  match outcome with
  | some .exhausted => throw .exhausted
  | some (.killed signal) => throw (.killed signal)
  | _ =>
      match (← Act.shell).traps.lookup exitTrap with
      | none => return
      | some text =>
          let status ← Act.status
          dropTrap exitTrap
          let left : Option Escape ← try
              runText run text
              pure none
            catch escape => pure (some escape)
          match left with
          | some .exhausted => throw .exhausted
          | some (.killed signal) => throw (.killed signal)
          | some .leave => return
          | _ => Act.setStatus status

def runBelow (run : Runner) (act : Act Unit) : Act Nat :=
  Act.below do
    Act.changeShell fun shell => { shell with traps := [], loops := 0 }
    wholeShell run act

def defaultPath : Octets :=
  "/usr/local/sbin:/usr/local/bin:/usr/sbin:/usr/bin:/sbin:/bin".toList

def firstVariables (dialect : Dialect) (name : Octets) (exports : List (Octets × Octets))
    (workingPath : Octets) (parent : Nat) : List (Octets × Variable) :=
  let given := exports.filter (fun entry => isName entry.1 && entry.1 ≠ "IFS".toList)
    |>.map fun (name, value) => (name, { values := [(0, value)], exported := true : Variable })
  let plain (name : String) (value : Octets) : Octets × Variable :=
    (name.toList, { values := [(0, value)] })
  let isExported (name : String) : Bool := (given.lookup name.toList).isSome
  let place := { values := [(0, workingPath)], exported := isExported "PWD" : Variable }
  let own :=
    [("PWD".toList, place), plain "IFS" Expansion.defaultSeparators, plain "OPTIND" ['1'],
     plain "PPID" (Text.decimalText parent), plain "PS4" ['+', ' ']] ++
    (if isExported "PATH" then [] else [plain "PATH" defaultPath]) ++
    (if dialect = .extended then
      [plain "BASH_SOURCE" name, plain "BASH" "/bin/bash".toList,
       plain "BASH_VERSION" "5.2.15(1)-release".toList, plain "UID" ['0'], plain "EUID" ['0']]
     else [])
  own ++ given.filter fun entry => (own.lookup entry.1).isNone

def newShell (run : Runner) (dialect : Dialect) (modes : Modes) (name : Octets)
    (arguments : List Octets) (text : Octets) : Act Unit := do
  let outer ← Act.shell
  let process := (← get).processes + 1
  modify fun session => { session with processes := process }
  let exports ← Act.exports
  let host ← Act.host
  let known := (exports.lookup "PWD".toList).getD []
  let directory :=
    if OwnCommand.leadsHere host known then known else locationPath host.workingDirectory
  let bindings := firstVariables dialect name exports directory outer.process
  let shell : Shell :=
    { dialect, name, directory, arguments, bindings, modes, descriptors := outer.descriptors,
      process }
  let status ← Act.below do
    Act.changeShell fun _ => shell
    wholeShell run (runScript run text)
  Act.setStatus status

end BuiltinWrappers.Script
