import BuiltinWrappers.Host.Path
import BuiltinWrappers.Wrapper

/-!
# Generated headers

Two headers come out of a run: one for the runtime, which defines the wrappers,
and one for the compiler, which lists the wrapped names in a set.  Nothing in
either is escaped.
-/

namespace BuiltinWrappers

inductive Header where
  | runtime
  | compiler
  deriving DecidableEq, Repr

namespace Header

/-- Where a header stands below the root. -/
def place : Header → String
  | .runtime => "runtime/include/llvm/clang_builtins_wrapper.h"
  | .compiler => "compiler/include/clangBuiltinsWrappedSet.h"

def pathIn (header : Header) (root : String) : String :=
  Path.join root header.place

def label : Header → String
  | .runtime => "Wrapper header"
  | .compiler => "Wrapper header for compiler"

end Header

/-! ## Their texts -/

def banner : String :=
  "/* Generated by clang-builtin-gen based on clang's Builtins.def */"

def macroDefinition (wrapperPrefix : String) : String :=
  "#define " ++ prefixingMacro ++ "(S) " ++ wrapperPrefix ++ "##S"

/-- The runtime header around wrappers that are already rendered. -/
def runtimeText (wrapperPrefix : String) (wrappers : List String) : String :=
  "\n".intercalate (banner :: macroDefinition wrapperPrefix :: wrappers)

def inQuotes (text : String) : String := "\"" ++ text ++ "\""

def setEntries (names : List String) : String :=
  ",\n".intercalate (names.map inQuotes)

/-- The compiler header with the set of wrapped names. -/
def compilerText (wrapperPrefix : String) (names : List String) : String :=
  "\n".intercalate [
    banner,
    "#ifdef HAVE_LLVM",
    "#include <unordered_set>",
    "#include <string>",
    "#define WRAPPER_PREFIX " ++ inQuotes wrapperPrefix,
    "std::unordered_set<std::string> chplClangBuiltinWrappedFunctions =",
    "\x7b",
    setEntries names,
    "\x7d;\n",
    "#endif"] ++ "\n"

/-! ## Both together -/

structure HeaderTexts where
  runtime : String
  compiler : String
  wrapperCount : Nat
  deriving DecidableEq, Repr

def HeaderTexts.text (texts : HeaderTexts) : Header → String
  | .runtime => texts.runtime
  | .compiler => texts.compiler

end BuiltinWrappers
