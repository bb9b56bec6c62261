/-!
# System faults

Why reading or writing a file fails, with the wording and number that the
operating system gives to each cause.
-/

namespace BuiltinWrappers

inductive SystemFault where
  | notFound
  | busy
  | alreadyExists
  | notDirectory
  | isDirectory
  | badArgument
  | nameTooLong
  | notEmpty
  | tooManyLinks
  | nulInPath
  | notText
  | other (description : String)
  deriving DecidableEq, Repr

namespace SystemFault

def wording : SystemFault → String
  | .notFound => "No such file or directory"
  | .busy => "Device or resource busy"
  | .alreadyExists => "File exists"
  | .notDirectory => "Not a directory"
  | .isDirectory => "Is a directory"
  | .badArgument => "Invalid argument"
  | .nameTooLong => "File name too long"
  | .notEmpty => "Directory not empty"
  | .tooManyLinks => "Too many levels of symbolic links"
  | .nulInPath => "file name contained an unexpected NUL byte"
  | .notText => "stream did not contain valid UTF-8"
  | .other description => description

def number? : SystemFault → Option Nat
  | .notFound => some 2
  | .busy => some 16
  | .alreadyExists => some 17
  | .notDirectory => some 20
  | .isDirectory => some 21
  | .badArgument => some 22
  | .nameTooLong => some 36
  | .notEmpty => some 39
  | .tooManyLinks => some 40
  | .nulInPath | .notText | .other _ => none

def message (fault : SystemFault) : String :=
  match fault.number? with
  | some number => fault.wording ++ " (os error " ++ Nat.repr number ++ ")"
  | none => fault.wording

end SystemFault

end BuiltinWrappers
