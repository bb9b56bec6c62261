import BuiltinWrappers.Binary64

/-!
# Syntax of indented scripts

Statements and expressions of a language whose blocks are told by indentation.
-/

namespace BuiltinWrappers.Script.Indented

inductive Constant where
  | nothing
  | ellipsis
  | truth (value : Bool)
  | integer (value : Int)
  | real (value : Binary64)
  | text (characters : List Char)
  | bytes (octets : List Char)
  deriving DecidableEq, Repr

/-! ## Operators -/

inductive UnaryOperator where
  | not
  | minus
  | plus
  | invert
  deriving DecidableEq, Repr

inductive BinaryOperator where
  | add
  | subtract
  | multiply
  | matrixMultiply
  | divide
  | wholeDivide
  | remainder
  | power
  | leftShift
  | rightShift
  | both
  | either
  | exclusive
  deriving DecidableEq, Repr

inductive Comparison where
  | equal
  | unequal
  | less
  | lessEqual
  | greater
  | greaterEqual
  | same
  | notSame
  | within
  | notWithin
  deriving DecidableEq, Repr

namespace BinaryOperator

def spelling : BinaryOperator → String × String
  | .add => ("+", "add")
  | .subtract => ("-", "sub")
  | .multiply => ("*", "mul")
  | .matrixMultiply => ("@", "matmul")
  | .divide => ("/", "truediv")
  | .wholeDivide => ("//", "floordiv")
  | .remainder => ("%", "mod")
  | .power => ("**", "pow")
  | .leftShift => ("<<", "lshift")
  | .rightShift => (">>", "rshift")
  | .both => ("&", "and")
  | .either => ("|", "or")
  | .exclusive => ("^", "xor")

def all : List BinaryOperator :=
  [.add, .subtract, .multiply, .matrixMultiply, .divide, .wholeDivide, .remainder, .power,
   .leftShift, .rightShift, .both, .either, .exclusive]

def sign (operator : BinaryOperator) : String := operator.spelling.1

def method (operator : BinaryOperator) : String := "__" ++ operator.spelling.2 ++ "__"

def turnedMethod (operator : BinaryOperator) : String := "__r" ++ operator.spelling.2 ++ "__"

def changingMethod (operator : BinaryOperator) : String := "__i" ++ operator.spelling.2 ++ "__"

def ofSign? (sign : String) : Option BinaryOperator := all.find? (·.sign = sign)

end BinaryOperator

namespace Comparison

def sign : Comparison → String
  | .equal => "=="
  | .unequal => "!="
  | .less => "<"
  | .lessEqual => "<="
  | .greater => ">"
  | .greaterEqual => ">="
  | .same => "is"
  | .notSame => "is not"
  | .within => "in"
  | .notWithin => "not in"

def method : Comparison → String
  | .equal => "__eq__"
  | .unequal => "__ne__"
  | .less => "__lt__"
  | .lessEqual => "__le__"
  | .greater => "__gt__"
  | .greaterEqual => "__ge__"
  | _ => ""

def turned : Comparison → Comparison
  | .less => .greater
  | .lessEqual => .greaterEqual
  | .greater => .less
  | .greaterEqual => .lessEqual
  | comparison => comparison

end Comparison

/-! ## Names -/

/--
What a body does with names: those that it binds for itself, those that belong to
the whole script, and those of a body around it.  Besides, whether it hands out
values, and whether it waits for other bodies.
-/
structure Names where
  owned : List String := []
  shared : List String := []
  outer : List String := []
  yields : Bool := false
  awaits : Bool := false
  deriving DecidableEq, Repr

inductive ParameterKind where
  | placed
  | free
  | gathering
  | named
  | gatheringNamed
  deriving DecidableEq, Repr

inductive Collected where
  | list
  | set
  | dictionary
  deriving DecidableEq, Repr

/-! ## Expressions -/

mutual

/--
An expression.  A bound that a slice leaves out is the constant nothing, and so is
the value of an element that makes no entry.  A key that is a spread takes in all
entries of a dictionary.
-/
inductive Expression where
  | constant (value : Constant)
  | name (name : String)
  | formatted (parts : List FormatPart)
  | member (object : Expression) (name : String)
  | call (function : Expression) (arguments : List Argument)
  | element (object index : Expression)
  | slice (start stop step : Expression)
  | unary (operator : UnaryOperator) (operand : Expression)
  | binary (operator : BinaryOperator) (left right : Expression)
  | comparison (first : Expression) (comparisons : List Comparison) (others : List Expression)
  | both (first second : Expression)
  | either (first second : Expression)
  | conditional (condition first second : Expression)
  | list (elements : List Expression)
  | tuple (elements : List Expression)
  | set (elements : List Expression)
  | dictionary (keys values : List Expression)
  | collected (kind : Collected) (element value : Expression) (clauses : List Clause)
  | generator (element : Expression) (clauses : List Clause)
  | function (parameters : List Parameter) (body : Expression) (names : Names)
  | spread (inner : Expression)
  | named (name : String) (value : Expression)

inductive FormatPart where
  | text (characters : List Char)
  | value (expression : Expression) (conversion : Option Char) (form : List FormatPart)

inductive Argument where
  | plain (expression : Expression)
  | named (name : String) (expression : Expression)
  | spread (expression : Expression)
  | namedSpread (expression : Expression)

inductive Clause where
  | mk (target source : Expression) (conditions : List Expression)

inductive Parameter where
  | mk (name : String) (kind : ParameterKind) (default hint : Option Expression)

end

namespace Expression

def nothing : Expression := .constant .nothing

end Expression

/-! ## Statements -/

/-- What a value is compared with when one of several choices is made. -/
inductive Shape where
  | anything (name : Option String)
  | equal (value : Expression)
  | sequence (shapes : List Shape)
  | rest (name : Option String)
  | mapping (keys : List Expression) (shapes : List Shape) (rest : Option String)
  | family (family : Expression) (shapes : List Shape) (names : List String)
  | either (shapes : List Shape)
  | bound (shape : Shape) (name : String)

mutual

inductive Statement where
  | expression (expression : Expression)
  | assign (targets : List Expression) (value : Expression)
  | annotated (target hint : Expression) (value : Option Expression)
  | augment (target : Expression) (operator : BinaryOperator) (value : Expression)
  | conditional (condition : Expression) (body otherwise : List Statement)
  | loop (condition : Expression) (body otherwise : List Statement)
  | each (target source : Expression) (body otherwise : List Statement)
  | definition (decorators : List Expression) (definition : Definition)
  | family (decorators : List Expression) (arguments : List Argument) (definition : Definition)
  | result (value : Expression)
  | give (receiver : String) (value : Expression) (delegates : Bool)
  | load (name library : String) (wholePath : Bool)
  | loadFrom (level : Nat) (library : String) (entries : List (String × String))
  | using (resource : Expression) (target : Option Expression) (body : List Statement)
  | attempt (body : List Statement) (handlers : List Handler)
      (otherwise afterwards : List Statement)
  | choose (subject : Expression) (choices : List Choice)
  | raised (fault cause : Option Expression)
  | pass
  | leave
  | nextRound
  | delete (targets : List Expression)
  | assertion (condition : Expression) (reason : Option Expression)

inductive Handler where
  | mk (kind : Option Expression) (name : Option String) (body : List Statement)

inductive Choice where
  | mk (shape : Shape) (guard : Option Expression) (body : List Statement)

inductive Definition where
  | mk (name : String) (parameters : List Parameter) (body : List Statement)
      (hint : Option Expression) (names : Names)

end

namespace Definition

def name : Definition → String
  | .mk name _ _ _ _ => name

def parameters : Definition → List Parameter
  | .mk _ parameters _ _ _ => parameters

def body : Definition → List Statement
  | .mk _ _ body _ _ => body

def hint : Definition → Option Expression
  | .mk _ _ _ hint _ => hint

def names : Definition → Names
  | .mk _ _ _ _ names => names

end Definition

end BuiltinWrappers.Script.Indented
