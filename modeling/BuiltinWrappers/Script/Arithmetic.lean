import BuiltinWrappers.Script.Syntax.Scan
import BuiltinWrappers.Text.Digits

/-!
# Arithmetic of scripts

Expressions over integers of 64 bits that wrap around.  Operators bind in twelve
levels.  A variable stands for the number that its value writes; in the extended
language the value may be an expression itself, and elements of lists are named
with their brackets.
-/

namespace BuiltinWrappers.Script.Arithmetic

open Text (Octets)

inductive Fault where
  | malformed
  | badNumber (text : Octets)
  | divisionByZero
  deriving DecidableEq, Repr

inductive Expression where
  | number (value : Int)
  | variableName (name : Octets)
  | unary (operator : Char) (operand : Expression)
  | binary (operator : String) (left right : Expression)
  | conditional (condition first second : Expression)
  | assignment (name : Octets) (operator : Option String) (value : Expression)
  | step (name : Octets) (amount : Int) (old : Bool)
  deriving Repr

/-! ## Lexemes -/

inductive Lexeme where
  | number (value : Int)
  | name (name : Octets)
  | sign (text : String)
  deriving DecidableEq, Repr

def signs : List String :=
  ["<<=", ">>=", "**", "++", "--", "<<", ">>", "<=", ">=", "==", "!=", "&&", "||", "+=", "-=",
   "*=", "/=", "%=", "&=", "|=", "^=", "+", "-", "*", "/", "%", "<", ">", "=", "!", "~", "&",
   "|", "^", "?", ":", "(", ")", ","]

def signsOf (dialect : Dialect) : List String :=
  match dialect with
  | .extended => signs
  | .plain => signs.filter fun sign => !(["**", "++", "--", ","].contains sign)

def isSpaceSign (character : Char) : Bool :=
  character = ' ' || character = '\t' || character = '\n'

def constant? (run : Octets) : Option Int :=
  match run with
  | '0' :: 'x' :: digits | '0' :: 'X' :: digits =>
      if digits ≠ [] ∧ digits.all (Text.isDigitOf 16) then some (Text.ofDigits 16 digits)
      else none
  | '0' :: digits =>
      if digits.all (Text.isDigitOf 8) then some (Text.ofDigits 8 digits) else none
  | digits => if digits.all Char.isDigit then some (Text.ofDigits 10 digits) else none

def element? (dialect : Dialect) (text : Octets) : Option (Octets × Octets) :=
  let name := text.takeWhile isNameCharacter
  match dialect, text.drop name.length with
  | .extended, '[' :: rest =>
      (Parser.bracketed? 0 rest).map fun (inner, rest) =>
        let plain := inner.filter fun character => character ≠ '"' && character ≠ '\''
        (name ++ '[' :: plain ++ [']'], rest)
  | _, _ => none

def digitValue? (base : Nat) (digit : Char) : Option Nat :=
  let value :=
    if digit.isDigit then digit.toNat - '0'.toNat
    else if digit.isLower then digit.toNat - 'a'.toNat + 10
    else if digit.isUpper then digit.toNat - 'A'.toNat + (if base ≤ 36 then 10 else 36)
    else if digit = '@' then 62
    else 63
  if value < base then some value else none

def based? (dialect : Dialect) (text : Octets) : Option (Int × Octets) :=
  let base := text.takeWhile Char.isDigit
  match dialect, text.drop base.length with
  | .extended, '#' :: rest =>
      let size := Text.ofDigits 10 base
      let digits := rest.takeWhile fun character => isNameCharacter character || character = '@'
      (digits.mapM (digitValue? size)).map fun values =>
        (values.foldl (fun number (value : Nat) => number * size + value) 0,
          rest.drop digits.length)
  | _, _ => none

def lexemes? (dialect : Dialect) : (fuel : Nat) → Octets → Except Fault (List Lexeme)
  | _, [] => .ok []
  | 0, _ => .error .malformed
  | fuel + 1, first :: rest => do
      let text := first :: rest
      if isSpaceSign first then lexemes? dialect fuel rest
      else if isNameCharacter first then
        let run := text.takeWhile isNameCharacter
        let after := text.dropWhile isNameCharacter
        if isNameStart first then
          match element? dialect text with
          | some (element, after) => return .name element :: (← lexemes? dialect fuel after)
          | none => return .name run :: (← lexemes? dialect fuel after)
        else
          match based? dialect text, constant? run with
          | some (value, after), _ => return .number value :: (← lexemes? dialect fuel after)
          | none, some value => return .number value :: (← lexemes? dialect fuel after)
          | none, none => throw (.badNumber run)
      else
        match (signsOf dialect).find? fun sign => sign.toList.isPrefixOf text with
        | some sign => return .sign sign :: (← lexemes? dialect fuel (text.drop sign.length))
        | none => throw .malformed

/-! ## Expressions -/

def level? (operator : String) : Option Nat :=
  match operator with
  | "||" => some 1
  | "&&" => some 2
  | "|" => some 3
  | "^" => some 4
  | "&" => some 5
  | "==" | "!=" => some 6
  | "<" | "<=" | ">" | ">=" => some 7
  | "<<" | ">>" => some 8
  | "+" | "-" => some 9
  | "*" | "/" | "%" => some 10
  | "**" => some 11
  | _ => none

def assigned? (sign : String) : Option (Option String) :=
  if sign = "=" then some none
  else if ["<<=", ">>=", "+=", "-=", "*=", "/=", "%=", "&=", "|=", "^="].contains sign then
    some (some (String.ofList sign.toList.dropLast))
  else none

abbrev Reading := Except Fault (Expression × List Lexeme)

mutual

def sequence : (fuel : Nat) → List Lexeme → Reading
  | 0, _ => .error .malformed
  | fuel + 1, lexemes => do
      let (first, rest) ← assignment fuel lexemes
      match rest with
      | .sign "," :: rest =>
          let (second, rest) ← sequence fuel rest
          return (.binary "," first second, rest)
      | _ => return (first, rest)

def assignment : (fuel : Nat) → List Lexeme → Reading
  | 0, _ => .error .malformed
  | fuel + 1, lexemes =>
      match lexemes with
      | .name name :: .sign sign :: rest =>
          match assigned? sign with
          | some operator => do
              let (value, rest) ← assignment fuel rest
              return (.assignment name operator value, rest)
          | none => conditional fuel lexemes
      | _ => conditional fuel lexemes

def conditional : (fuel : Nat) → List Lexeme → Reading
  | 0, _ => .error .malformed
  | fuel + 1, lexemes => do
      let (condition, rest) ← operand fuel lexemes
      let (condition, rest) ← operators fuel 1 condition rest
      match rest with
      | .sign "?" :: rest =>
          let (first, rest) ← sequence fuel rest
          match rest with
          | .sign ":" :: rest =>
              let (second, rest) ← conditional fuel rest
              return (.conditional condition first second, rest)
          | _ => throw .malformed
      | _ => return (condition, rest)

def operators : (fuel : Nat) → (lowest : Nat) → Expression → List Lexeme → Reading
  | 0, _, _, _ => .error .malformed
  | fuel + 1, lowest, left, lexemes => do
      match lexemes with
      | .sign sign :: rest =>
          match level? sign with
          | none => return (left, lexemes)
          | some level =>
              if level < lowest then return (left, lexemes)
              else
                let (right, rest) ← operand fuel rest
                let above := if sign = "**" then level else level + 1
                let (right, rest) ← operators fuel above right rest
                operators fuel lowest (.binary sign left right) rest
      | _ => return (left, lexemes)

def operand : (fuel : Nat) → List Lexeme → Reading
  | 0, _ => .error .malformed
  | fuel + 1, lexemes => do
      match lexemes with
      | .number value :: rest => return (.number value, rest)
      | .name name :: .sign "++" :: rest => return (.step name 1 true, rest)
      | .name name :: .sign "--" :: rest => return (.step name (-1) true, rest)
      | .sign "++" :: .name name :: rest => return (.step name 1 false, rest)
      | .sign "--" :: .name name :: rest => return (.step name (-1) false, rest)
      | .name name :: rest => return (.variableName name, rest)
      | .sign "(" :: rest =>
          let (inner, rest) ← sequence fuel rest
          match rest with
          | .sign ")" :: rest => return (inner, rest)
          | _ => throw .malformed
      | .sign sign :: rest =>
          match sign with
          | "-" | "+" | "!" | "~" =>
              let (inner, rest) ← operand fuel rest
              return (.unary (sign.toList.headD '+') inner, rest)
          | _ => throw .malformed
      | [] => throw .malformed

end

def parse (dialect : Dialect) (text : Octets) : Except Fault Expression := do
  let lexemes ← lexemes? dialect (text.length + 1) text
  if lexemes.isEmpty then return .number 0
  else
    let (expression, rest) ← sequence (8 * lexemes.length + 8) lexemes
    if rest.isEmpty then return expression else throw .malformed

/-! ## Values -/

def wrap (value : Int) : Int := Int.bmod value 18446744073709551616

def ofBool (holds : Bool) : Int := if holds then 1 else 0

def bits (value : Int) : Nat := (value % 18446744073709551616).toNat

def binaryValue (operator : String) (left right : Int) : Except Fault Int :=
  match operator with
  | "+" => .ok (wrap (left + right))
  | "-" => .ok (wrap (left - right))
  | "*" => .ok (wrap (left * right))
  | "/" => if right = 0 then .error .divisionByZero else .ok (wrap (Int.tdiv left right))
  | "%" => if right = 0 then .error .divisionByZero else .ok (wrap (Int.tmod left right))
  | "**" =>
      if right < 0 then .error .malformed
      else .ok ((List.range (min right.toNat 64)).foldl (fun value _ => wrap (value * left)) 1)
  | "<<" => .ok (wrap (left * Nat.pow 2 (bits right % 64)))
  | ">>" => .ok (Int.fdiv left (Nat.pow 2 (bits right % 64)))
  | "&" => .ok (wrap (bits left &&& bits right : Nat))
  | "|" => .ok (wrap (bits left ||| bits right : Nat))
  | "^" => .ok (wrap (bits left ^^^ bits right : Nat))
  | "<" => .ok (ofBool (left < right))
  | "<=" => .ok (ofBool (left ≤ right))
  | ">" => .ok (ofBool (right < left))
  | ">=" => .ok (ofBool (right ≤ left))
  | "==" => .ok (ofBool (left = right))
  | "!=" => .ok (ofBool (left ≠ right))
  | _ => .ok right

def unaryValue (operator : Char) (value : Int) : Int :=
  match operator with
  | '-' => wrap (-value)
  | '!' => ofBool (value = 0)
  | '~' => -value - 1
  | _ => value

abbrev Bindings := List (Octets × Int)

abbrev Evaluation := StateT Bindings (Except Fault)

structure Setting where
  dialect : Dialect
  value : Octets → Octets

def literal? (text : Octets) : Option Int :=
  let trimmed := (text.dropWhile isSpaceSign).reverse.dropWhile isSpaceSign |>.reverse
  match trimmed with
  | [] => some 0
  | '-' :: digits =>
      if digits.head?.any Char.isDigit then (constant? digits).map (- ·) else none
  | '+' :: digits => if digits.head?.any Char.isDigit then constant? digits else none
  | digits => if digits.head?.any Char.isDigit then constant? digits else none

mutual

def evaluate (setting : Setting) : (fuel : Nat) → Expression → Evaluation Int
  | 0, _ => throw .malformed
  | fuel + 1, expression => do
      match expression with
      | .number value => return wrap value
      | .variableName name => current setting fuel name
      | .unary operator inner => return unaryValue operator (← evaluate setting fuel inner)
      | .binary "&&" left right =>
          if (← evaluate setting fuel left) = 0 then return 0
          else return ofBool ((← evaluate setting fuel right) ≠ 0)
      | .binary "||" left right =>
          if (← evaluate setting fuel left) ≠ 0 then return 1
          else return ofBool ((← evaluate setting fuel right) ≠ 0)
      | .binary operator left right =>
          let left ← evaluate setting fuel left
          let right ← evaluate setting fuel right
          liftM (binaryValue operator left right)
      | .conditional condition first second =>
          if (← evaluate setting fuel condition) ≠ 0 then evaluate setting fuel first
          else evaluate setting fuel second
      | .assignment name operator value =>
          let value ← evaluate setting fuel value
          let value ←
            match operator with
            | none => pure value
            | some operator => do
                liftM (binaryValue operator (← current setting fuel name) value)
          modify ((name, value) :: ·)
          return value
      | .step name amount old =>
          let before ← current setting fuel name
          let after := wrap (before + amount)
          modify ((name, after) :: ·)
          return if old then before else after

def current (setting : Setting) : (fuel : Nat) → Octets → Evaluation Int
  | 0, _ => throw .malformed
  | fuel + 1, name => do
      match (← get).lookup name with
      | some value => return value
      | none =>
          let text := setting.value name
          match literal? text with
          | some value => return wrap value
          | none =>
              match setting.dialect with
              | .plain => throw (.badNumber text)
              | .extended =>
                  let expression ← liftM (parse setting.dialect text)
                  evaluate setting fuel expression

end

def result (setting : Setting) (text : Octets) : Except Fault (Int × Bindings) := do
  let expression ← parse setting.dialect text
  (evaluate setting (text.length + 64) expression).run []

/-! ## Examples -/

def plainSetting : Setting := ⟨.plain, fun _ => []⟩

example : (result plainSetting "1 + 2 * 3".toList).toOption = some (7, []) := by
  decide +kernel

example : (result plainSetting "(x = 5) % 3 - (7 > 2)".toList).toOption =
    some (1, [(['x'], 5)]) := by decide +kernel

end BuiltinWrappers.Script.Arithmetic
