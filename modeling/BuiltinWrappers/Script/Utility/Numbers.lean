import BuiltinWrappers.Script.Utility
import BuiltinWrappers.Text.Regex.Syntax

/-!
# Utilities on numbers

Rows of integers, and expressions that are written as arguments.
-/

namespace BuiltinWrappers.Script

open Text (Octets Regex Grammar)
open Job

/-! ## Rows -/

def zeroPadded (width : Nat) (text : Octets) : Octets :=
  match text with
  | '-' :: digits => '-' :: (List.replicate (width - text.length) '0' ++ digits)
  | digits => List.replicate (width - text.length) '0' ++ digits

def integersBetween (first step last : Int) : List Int :=
  if step = 0 then []
  else
    let count :=
      if 0 < step then if last < first then 0 else ((last - first) / step).toNat + 1
      else if first < last then 0 else ((first - last) / (-step)).toNat + 1
    (List.range count).map fun (index : Nat) => first + step * index

def spellNumber (word : Octets) : Bool :=
  match word with
  | '-' :: digit :: _ => digit.isDigit
  | _ => false

def seq : Utility := fun arguments => do
  let front := arguments.takeWhile fun word => word.head? = some '-' && !spellNumber word
  let valued := front.getLast?.any fun word => word = ['-', 's'] || word = ['-', 'f']
  let count := if valued then front.length + 1 else front.length
  let options ← options
    { flags := "w", valued := "sf",
      long := [("equal-width", 'w'), ("separator", 's'), ("format", 'f')] } (arguments.take count)
  let operands := arguments.drop count
  let numbers ← operands.mapM fun word => do
    match Text.integer? word with
    | some number => return number
    | none => misuse 1 ("invalid floating point argument: ".toList ++ quote word)
  let row ←
    match numbers with
    | [last] => pure (integersBetween 1 1 last)
    | [first, last] => pure (integersBetween first 1 last)
    | [first, step, last] => pure (integersBetween first step last)
    | [] => misuse 1 "missing operand".toList
    | _ => misuse 1 ("extra operand ".toList ++ quote (operands.getLastD []))
  let texts := row.map Text.integerText
  let width := texts.foldl (fun width text => max width text.length) 0
  let texts := if options.has 'w' then texts.map (zeroPadded width) else texts
  let separator := (options.value? 's').getD ['\n']
  if texts ≠ [] then print (separator.intercalate texts ++ ['\n'])

/-! ## Expressions -/

namespace Expr

inductive Fault where
  | malformed
  | notInteger
  | divisionByZero
  deriving DecidableEq, Repr

abbrev Reading := Except Fault (Octets × List Octets)

def level? (operator : Octets) : Option Nat :=
  match String.ofList operator with
  | "|" => some 0
  | "&" => some 1
  | "<" | "<=" | "=" | "==" | "!=" | ">=" | ">" => some 2
  | "+" | "-" => some 3
  | "*" | "/" | "%" => some 4
  | ":" => some 5
  | _ => none

def isNull (text : Octets) : Bool :=
  text.isEmpty || Text.integer? text = some 0

def ofBool (holds : Bool) : Octets := if holds then ['1'] else ['0']

def matched (text expression : Octets) : Except Fault Octets :=
  match Regex.parse? .basic expression with
  | none => .error .malformed
  | some regex =>
      let hasGroup := (expression.zip expression.tail).contains ('\\', '(')
      match regex.ends false { rest := text } with
      | place :: _ =>
          if hasGroup then .ok ((place.groups.lookup 1).getD [])
          else .ok (Text.decimalText place.position)
      | [] => .ok (if hasGroup then [] else ['0'])

def compared (operator : String) (left right : Octets) : Octets :=
  let order :=
    match Text.integer? left, Text.integer? right with
    | some left, some right => compare left right
    | _, _ => if left = right then .eq else if left < right then .lt else .gt
  ofBool <|
    match operator with
    | "<" => order.isLT
    | "<=" => order.isLE
    | "=" | "==" => order.isEq
    | "!=" => order.isNe
    | ">=" => order.isGE
    | _ => order.isGT

def combined (operator left right : Octets) : Except Fault Octets := do
  match String.ofList operator with
  | "|" => return if isNull left then (if isNull right then ['0'] else right) else left
  | "&" => return if isNull left ∨ isNull right then ['0'] else left
  | ":" => matched left right
  | "+" | "-" | "*" | "/" | "%" =>
      match Text.integer? left, Text.integer? right with
      | some left, some right =>
          match operator with
          | ['+'] => return Text.integerText (left + right)
          | ['-'] => return Text.integerText (left - right)
          | ['*'] => return Text.integerText (left * right)
          | ['/'] =>
              if right = 0 then throw .divisionByZero
              else return Text.integerText (Int.tdiv left right)
          | _ =>
              if right = 0 then throw .divisionByZero
              else return Text.integerText (Int.tmod left right)
      | _, _ => throw .notInteger
  | operator => return compared operator left right

mutual

def operand : (fuel : Nat) → List Octets → Reading
  | 0, _ => .error .malformed
  | fuel + 1, words => do
      match words with
      | ['('] :: rest =>
          let (value, rest) ← expression fuel 0 rest
          match rest with
          | [')'] :: rest => return (value, rest)
          | _ => throw .malformed
      | word :: rest =>
          match String.ofList word, rest with
          | "length", text :: rest => return (Text.decimalText text.length, rest)
          | "substr", text :: position :: count :: rest =>
              match Text.integer? position, Text.integer? count with
              | some position, some count =>
                  if position ≤ 0 ∨ count ≤ 0 then return ([], rest)
                  else return ((text.drop (position.toNat - 1)).take count.toNat, rest)
              | _, _ => return ([], rest)
          | "index", text :: characters :: rest =>
              let place := text.findIdx characters.contains
              return (Text.decimalText (if place < text.length then place + 1 else 0), rest)
          | "match", text :: pattern :: rest => return (← matched text pattern, rest)
          | "+", text :: rest => return (text, rest)
          | _, rest => return (word, rest)
      | [] => throw .malformed

def expression : (fuel : Nat) → (level : Nat) → List Octets → Reading
  | 0, _, _ => .error .malformed
  | fuel + 1, level, words => do
      let (left, rest) ← operand fuel words
      operators fuel level left rest

def operators : (fuel : Nat) → (lowest : Nat) → Octets → List Octets → Reading
  | 0, _, _, _ => .error .malformed
  | fuel + 1, lowest, left, words => do
      match words with
      | word :: rest =>
          match level? word with
          | none => return (left, words)
          | some level =>
              if level < lowest then return (left, words)
              else
                let (right, rest) ← expression fuel (level + 1) rest
                operators fuel lowest (← combined word left right) rest
      | [] => return (left, [])

end

def value (words : List Octets) : Except Fault Octets := do
  let (value, rest) ← expression (4 * words.length + 4) 0 words
  if rest.isEmpty then return value else throw .malformed

def Fault.message : Fault → String
  | .malformed => "syntax error"
  | .notInteger => "non-integer argument"
  | .divisionByZero => "division by zero"

end Expr

def expr : Utility := fun arguments => do
  let words := if arguments.head? = some ['-', '-'] then arguments.tail else arguments
  match Expr.value words with
  | .ok value =>
      printLine value
      if Expr.isNull value then setStatus 1
  | .error fault => abort 2 (Expr.Fault.message fault).toList

end BuiltinWrappers.Script
