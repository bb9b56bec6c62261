import BuiltinWrappers.Host.FileTree
import BuiltinWrappers.Script.Syntax
import BuiltinWrappers.Script.Utility
import BuiltinWrappers.Text.Digits

/-!
# Tests

Conditions on texts, integers and files, as they are written in arguments.  Up
to four arguments are read by their number; longer ones by the binding of the
operators.
-/

namespace BuiltinWrappers.Script.Test

open Text (Octets)

structure Setting where
  dialect : Dialect
  host : Host
  isSet : Octets → Bool
  system : Octets → Option Node

inductive Fault where
  | badInteger (text : Octets)
  | unexpected (word : Octets)
  | missing (word : Octets)
  deriving DecidableEq, Repr

def Fault.text (dialect : Dialect) : Fault → Octets
  | .badInteger text =>
      match dialect with
      | .plain => "Illegal number: ".toList ++ text
      | .extended => text ++ ": integer expression expected".toList
  | .unexpected word =>
      match dialect with
      | .plain => word ++ ": unexpected operator".toList
      | .extended => word ++ ": binary operator expected".toList
  | .missing word =>
      match dialect with
      | .plain => word ++ ": argument expected".toList
      | .extended => "argument expected".toList

/-! ## Primitive conditions -/

def unaryOperators : String := "nzefdrwxshLpSbcugktOGNvo"

def isUnary (word : Octets) : Bool :=
  match word with
  | ['-', letter] => unaryOperators.toList.contains letter
  | _ => false

def node? (setting : Setting) (path : Octets) : Option Node :=
  match setting.system path with
  | some node => some node
  | none =>
      match setting.host.locate path.toString with
      | .ok (_, node) => node
      | .error _ => none

def isDevice (path : Octets) : Bool :=
  ["/dev/null", "/dev/zero", "/dev/tty", "/dev/stdin", "/dev/stdout", "/dev/stderr"].contains
    (String.ofList path)

def isLink (setting : Setting) (path : Octets) : Bool :=
  match setting.host.locateEntry path.toString with
  | .ok (_, some (.link _)) => true
  | _ => false

def unary (setting : Setting) (letter : Char) (text : Octets) : Bool :=
  let node := node? setting text
  match letter with
  | 'n' => !text.isEmpty
  | 'z' => text.isEmpty
  | 'e' | 'r' | 'w' => node.isSome || isDevice text
  | 'c' => isDevice text
  | 'O' | 'G' => node.isSome || isDevice text
  | 'f' => node.any Node.isFile
  | 'd' => node.any Node.isDirectory
  | 'h' | 'L' => isLink setting text
  | 'x' => node.any fun node => node.isDirectory || node.isExecutable
  | 's' => node.any fun node => node.size ≠ 0
  | 'u' => node.any fun node => node.mode &&& 0o4000 ≠ 0
  | 'g' => node.any fun node => node.mode &&& 0o2000 ≠ 0
  | 'k' => node.any fun node => node.mode &&& 0o1000 ≠ 0
  | 'v' => setting.isSet text
  | _ => false

def integer (setting : Setting) (text : Octets) : Except Fault Int :=
  let isSpace (character : Char) : Bool := character = ' ' || character = '\t' || character = '\n'
  let trimmed := ((text.dropWhile isSpace).reverse.dropWhile isSpace).reverse
  match Text.integer? trimmed, setting.dialect with
  | some value, _ => .ok value
  | none, _ => .error (.badInteger text)

def binaryOperators : List String :=
  ["=", "==", "!=", "<", ">", "-eq", "-ne", "-gt", "-ge", "-lt", "-le", "-nt", "-ot", "-ef"]

def isBinary (dialect : Dialect) (word : Octets) : Bool :=
  binaryOperators.contains (String.ofList word) && !(dialect = .plain && word = ['=', '='])

def sameFile (setting : Setting) (first second : Octets) : Bool :=
  match setting.host.locate first.toString, setting.host.locate second.toString with
  | .ok (first, some _), .ok (second, some _) =>
      (setting.host.namesOf first).contains second
  | _, _ => false

def binary (setting : Setting) (left operator right : Octets) : Except Fault Bool := do
  let compared (holds : Int → Int → Bool) : Except Fault Bool := do
    return holds (← integer setting left) (← integer setting right)
  match String.ofList operator with
  | "=" | "==" => return left = right
  | "!=" => return left ≠ right
  | "<" => return left < right
  | ">" => return right < left
  | "-eq" => compared fun left right => left = right
  | "-ne" => compared fun left right => left ≠ right
  | "-gt" => compared fun left right => left > right
  | "-ge" => compared fun left right => left ≥ right
  | "-lt" => compared fun left right => left < right
  | "-le" => compared fun left right => left ≤ right
  | "-nt" => return (node? setting left).isSome && (node? setting right).isNone
  | "-ot" => return (node? setting left).isNone && (node? setting right).isSome
  | "-ef" => return sameFile setting left right
  | _ => throw (.unexpected operator)

/-! ## Conditions of many words -/

abbrev Reading := Except Fault (Bool × List Octets)

mutual

def disjunction (setting : Setting) : (fuel : Nat) → List Octets → Reading
  | 0, _ => .error (.missing [])
  | fuel + 1, words => do
      let (first, rest) ← conjunction setting fuel words
      match rest with
      | ['-', 'o'] :: rest =>
          let (second, rest) ← disjunction setting fuel rest
          return (first || second, rest)
      | rest => return (first, rest)

def conjunction (setting : Setting) : (fuel : Nat) → List Octets → Reading
  | 0, _ => .error (.missing [])
  | fuel + 1, words => do
      let (first, rest) ← negation setting fuel words
      match rest with
      | ['-', 'a'] :: rest =>
          let (second, rest) ← conjunction setting fuel rest
          return (first && second, rest)
      | rest => return (first, rest)

def negation (setting : Setting) : (fuel : Nat) → List Octets → Reading
  | 0, _ => .error (.missing [])
  | fuel + 1, words => do
      match words with
      | ['!'] :: [] => return (true, [])
      | ['!'] :: rest =>
          let (inner, rest) ← negation setting fuel rest
          return (!inner, rest)
      | words => primary setting fuel words

def primary (setting : Setting) : (fuel : Nat) → List Octets → Reading
  | 0, _ => .error (.missing [])
  | fuel + 1, words => do
      match words with
      | [] => return (false, [])
      | left :: operator :: right :: rest =>
          if isBinary setting.dialect operator then
            return (← binary setting left operator right, rest)
          else single setting fuel words
      | words => single setting fuel words

def single (setting : Setting) : (fuel : Nat) → List Octets → Reading
  | 0, _ => .error (.missing [])
  | fuel + 1, words => do
      match words with
      | ['('] :: rest =>
          let (inner, rest) ← disjunction setting fuel rest
          match rest with
          | [')'] :: rest => return (inner, rest)
          | _ => throw (.missing ['('])
      | [word] => return (!word.isEmpty, [])
      | operator :: word :: rest =>
          match isUnary operator, operator with
          | true, [_, letter] => return (unary setting letter word, rest)
          | _, _ => return (!operator.isEmpty, word :: rest)
      | [] => return (false, [])

end

def longer (setting : Setting) (words : List Octets) : Except Fault Bool := do
  let (holds, rest) ← disjunction setting (4 * words.length + 8) words
  match rest with
  | [] => return holds
  | word :: _ => throw (.unexpected word)

def holds (setting : Setting) (words : List Octets) : Except Fault Bool := do
  match words with
  | [] => return false
  | [word] => return !word.isEmpty
  | [['!'], word] => return word.isEmpty
  | [operator, word] =>
      match isUnary operator, operator with
      | true, [_, letter] => return unary setting letter word
      | _, _ => throw (.missing operator)
  | [left, operator, right] =>
      if isBinary setting.dialect operator then binary setting left operator right
      else if left = ['!'] then return !(← holds setting [operator, right])
      else if left = ['('] ∧ right = [')'] then return !operator.isEmpty
      else longer setting words
  | [first, second, third, fourth] =>
      if first = ['!'] then return !(← holds setting [second, third, fourth])
      else if first = ['('] ∧ fourth = [')'] then holds setting [second, third]
      else longer setting words
  | words => longer setting words

end BuiltinWrappers.Script.Test
