import BuiltinWrappers.Script.Utility.Difference
import BuiltinWrappers.Script.Utility.Digest
import BuiltinWrappers.Script.Utility.Edit
import BuiltinWrappers.Script.Utility.Encoding
import BuiltinWrappers.Script.Utility.Lines
import BuiltinWrappers.Script.Utility.Listing
import BuiltinWrappers.Script.Utility.Numbers
import BuiltinWrappers.Script.Utility.Paths
import BuiltinWrappers.Script.Utility.Permissions
import BuiltinWrappers.Script.Utility.Pieces
import BuiltinWrappers.Script.Utility.Printing
import BuiltinWrappers.Script.Utility.Search
import BuiltinWrappers.Script.Utility.System

/-!
# Which utilities there are

The utilities by name, and the directories of the system in which they stand.
-/

namespace BuiltinWrappers.Script

open Text (Octets)

namespace Utility

def ofName? (name : String) : Option Utility :=
  match name with
  | "base64" => some base64
  | "basename" => some basename
  | "cat" => some cat
  | "chmod" => some chmod
  | "chown" | "chgrp" | "sync" | "sleep" | "true" | "tty" => some succeed
  | "cksum" => some cksum
  | "cmp" => some cmp
  | "comm" => some comm
  | "cp" => some cp
  | "cut" => some cut
  | "date" => some date
  | "dd" => some dd
  | "diff" => some diff
  | "dirname" => some dirname
  | "echo" => some (echo .extended)
  | "egrep" => some (grepAs true false)
  | "expand" => some expand
  | "expr" => some expr
  | "false" => some failAlways
  | "fgrep" => some (grepAs false true)
  | "fold" => some fold
  | "grep" => some grep
  | "head" => some head
  | "hostname" => some hostname
  | "id" => some showIdentity
  | "install" => some install
  | "link" => some link
  | "ln" => some ln
  | "ls" => some ls
  | "md5sum" => some (digestUtility "MD5" Digest.short)
  | "mkdir" => some mkdir
  | "mktemp" => some mktemp
  | "mv" => some mv
  | "nl" => some nl
  | "od" => some od
  | "paste" => some paste
  | "printenv" => some printenv
  | "printf" => some (printFormatted .extended)
  | "pwd" => some showDirectory
  | "readlink" => some readlink
  | "realpath" => some realpath
  | "rev" => some rev
  | "rm" => some rm
  | "rmdir" => some rmdir
  | "sed" => some sed
  | "seq" => some seq
  | "sha1sum" => some (digestUtility "SHA1" Digest.middle)
  | "sha224sum" => some (digestUtility "SHA224" Digest.shortened)
  | "sha256sum" => some (digestUtility "SHA256" Digest.long)
  | "sha384sum" => some (digestUtility "SHA384" Digest.wideShortened)
  | "sha512sum" => some (digestUtility "SHA512" Digest.wide)
  | "sort" => some sort
  | "split" => some split
  | "stat" => some stat
  | "tac" => some tac
  | "tail" => some tail
  | "tee" => some tee
  | "touch" => some touch
  | "tr" => some tr
  | "truncate" => some truncate
  | "uname" => some uname
  | "unexpand" => some unexpand
  | "uniq" => some uniq
  | "unlink" => some unlink
  | "wc" => some wc
  | "whoami" => some whoami
  | "yes" => some yes
  | _ => none

end Utility

/-! ## Programs of the system -/

def launchers : List String :=
  ["awk", "bash", "dash", "env", "find", "mawk", "nice", "nohup", "python", "python3", "setsid",
   "sh", "stdbuf", "timeout", "which", "xargs", "test", "["]

def isProgram (name : Octets) : Bool :=
  (Utility.ofName? (String.ofList name)).isSome || launchers.contains (String.ofList name)

def programDirectories : List String := ["/usr/bin", "/bin"]

def systemDirectories : List String :=
  ["/", "/bin", "/dev", "/etc", "/home", "/lib", "/proc", "/root", "/sbin", "/tmp", "/usr",
   "/usr/bin", "/usr/lib", "/usr/local", "/usr/local/bin", "/usr/sbin", "/var"]

def programAt? (path : Octets) : Option Octets :=
  programDirectories.findSome? fun directory =>
    let front := directory.toList ++ ['/']
    let name := path.drop front.length
    if front.isPrefixOf path ∧ isProgram name then some name else none

def systemNode? (path : Octets) : Option Node :=
  if (programAt? path).isSome then some (.file "program".toUTF8 0o755)
  else if systemDirectories.contains (String.ofList path) then some FileTree.topDirectory
  else none

end BuiltinWrappers.Script
