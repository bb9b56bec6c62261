import BuiltinWrappers.Run
import BuiltinWrappers.Script.Start

/-!
# The program

The program on a host whose license script is interpreted.  All that is known of a
run holds for every license, so nothing here adds to it.
-/

namespace BuiltinWrappers

def Invocation.run (invocation : Invocation) (host : Host) : Except Fault Report × Host :=
  invocation.runWith .scripted host

def program (arguments : List String) (host : Host) : Nat × Host :=
  programWith .scripted arguments host

end BuiltinWrappers
