import BuiltinWrappers.Script.Utility

/-!
# Utilities about the system

Who and where the commands are run, and commands that only succeed or fail.
-/

namespace BuiltinWrappers.Script

open Text (Octets)
open Job

def succeed : Utility := fun _ => setStatus 0

def failAlways : Utility := fun _ => setStatus 1

def endlessLines : Nat := 5000

def yes : Utility := fun arguments => do
  let line := if arguments.isEmpty then ['y'] else [' '].intercalate arguments
  print (List.replicate endlessLines (line ++ ['\n'])).flatten

def uname : Utility := fun arguments => do
  let options ← options { flags := "asnrvmpio" } arguments
  let facts : List (Char × String) :=
    [('s', "Linux"), ('n', "localhost"), ('r', "6.1.0"), ('v', "#1 SMP"), ('m', "x86_64"),
     ('o', "GNU/Linux")]
  let shown :=
    if options.given.isEmpty then facts.take 1
    else if options.has 'a' then facts
    else facts.filter fun fact => options.has fact.1
  printLine ([' '].intercalate (shown.map fun fact => fact.2.toList))

def whoami : Utility := fun _ => printLine "root".toList

def showIdentity : Utility := fun arguments => do
  let options ← options { flags := "ugGnr" } arguments
  if options.hasAny "ugG" then printLine (if options.has 'n' then "root".toList else ['0'])
  else printLine "uid=0(root) gid=0(root) groups=0(root)".toList

def hostname : Utility := fun _ => printLine "localhost".toList

def date : Utility := fun _ => printLine "Thu Jan  1 00:00:00 UTC 1970".toList

def printenv : Utility := fun arguments => do
  let environment := (← get).environment
  if arguments.isEmpty then
    environment.forM fun (name, value) => printLine (name ++ '=' :: value)
  else
    arguments.forM fun name => do
      match environment.lookup name with
      | some value => printLine value
      | none => fail

end BuiltinWrappers.Script
