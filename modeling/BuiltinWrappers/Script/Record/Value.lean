import BuiltinWrappers.Script.Record.Syntax
import BuiltinWrappers.Script.Record.Token
import BuiltinWrappers.Script.Utility.Printing
import BuiltinWrappers.Text.Regex.Syntax

/-!
# Values of record scripts

A value is a number or a text, and a text that was read is a number too where it
looks like one.  Numbers are kept exactly and are rounded when they are written.
-/

namespace BuiltinWrappers.Script.Record

open Text (Octets Regex)

inductive Value where
  | unset
  | number (value : Rat)
  | text (octets : Octets)
  | input (octets : Octets)

namespace Value

def isBlank (octet : Char) : Bool := octet = ' ' || octet = '\t' || octet = '\n'

/-! ## Numbers in texts -/

def numberInFront (octets : Octets) : Rat × Octets :=
  let text := octets.dropWhile isBlank
  let negative := text.head? = some '-'
  let unsigned := if negative ∨ text.head? = some '+' then text.tail else text
  match Token.number? unsigned with
  | some (value, rest) => (if negative then -value else value, rest)
  | none => (0, octets)

def looksNumeric (octets : Octets) : Bool :=
  let (_, rest) := numberInFront octets
  rest.length < octets.length && rest.all isBlank

def toNumber : Value → Rat
  | .unset => 0
  | .number value => value
  | .text octets | .input octets => (numberInFront octets).1

def isNumeric : Value → Bool
  | .unset | .number _ => true
  | .text _ => false
  | .input octets => looksNumeric octets

def truncated (value : Rat) : Int := if value < 0 then -(-value).floor else value.floor

def ofNat (value : Nat) : Value := .number (mkRat value 1)

def ofBool (holds : Bool) : Value := .number (if holds then 1 else 0)

/-! ## Numbers as text -/

def nearest (value : Rat) : Binary64 :=
  let negative : Bool := value < 0
  if value.num = 0 then .finite false 0 Binary64.lowestExponent
  else
    match Binary64.nearestQuotient? value.num.natAbs value.den with
    | some (significand, exponent) => .finite negative significand exponent
    | none => .infinite negative

def directive? (count : Octets → Option (Int × Octets)) (text : Octets) :
    Option (Directive × Octets) := do
  let flags := text.takeWhile ("-+ #0".toList.contains ·)
  let (width, text) ← count (text.drop flags.length)
  let (precision, text) ←
    match text with
    | '.' :: text => (count text).map fun (precision, text) => (some precision.toNat, text)
    | text => some (none, text)
  let text := text.dropWhile ("hlL".toList.contains ·)
  let conversion ← text.head?
  return (⟨flags, width, precision, conversion⟩, text.tail)

def plainCount (text : Octets) : Option (Int × Octets) :=
  let digits := text.takeWhile Char.isDigit
  some (Text.ofDigits 10 digits, text.drop digits.length)

def wholeLimit : Nat := 9223372036854775808

/-- A number by a form such as `%.6g`, unless it is whole. -/
def numberText (form : Octets) (value : Rat) : Octets :=
  if value.den = 1 ∧ value.num.natAbs < wholeLimit then Text.integerText value.num
  else
    match form with
    | '%' :: rest =>
        match directive? plainCount rest with
        | some (directive, rest) => formatDecimal directive (nearest value) ++ rest
        | none => form
    | form => form

def toText (form : Octets) : Value → Octets
  | .unset => []
  | .number value => numberText form value
  | .text octets | .input octets => octets

def isTrue : Value → Bool
  | .unset => false
  | .number value => value ≠ 0
  | .text octets => !octets.isEmpty
  | .input octets =>
      if looksNumeric octets then (numberInFront octets).1 ≠ 0 else !octets.isEmpty

def lessOctets : Octets → Octets → Bool
  | [], other => !other.isEmpty
  | _, [] => false
  | one :: ones, other :: others =>
      if one = other then lessOctets ones others else one.toNat < other.toNat

/-- How two values compare: as numbers if both are numbers, and else as texts. -/
def compare (form : Octets) (first second : Value) : Ordering :=
  if first.isNumeric ∧ second.isNumeric then
    if first.toNumber < second.toNumber then .lt
    else if second.toNumber < first.toNumber then .gt
    else .eq
  else
    let one := first.toText form
    let other := second.toText form
    if lessOctets one other then .lt else if lessOctets other one then .gt else .eq

end Value

/-! ## Forms -/

namespace Form

def converted (form : Octets) (directive : Directive) (value : Value) : Octets :=
  match directive.conversion with
  | 's' =>
      let text := value.toText form
      pad directive (text.take (directive.precision.getD text.length))
  | 'c' =>
      match value with
      | .number code => pad directive [Char.ofNat ((Value.truncated code).toNat % 256)]
      | value => pad directive ((value.toText form).take 1)
  | 'd' | 'i' => formatInteger { directive with conversion := 'd' } (Value.truncated value.toNumber)
  | 'o' | 'x' | 'X' | 'u' => formatInteger directive (Value.truncated value.toNumber)
  | 'F' => formatDecimal { directive with conversion := 'f' } (Value.nearest value.toNumber)
  | _ => formatDecimal directive (Value.nearest value.toNumber)

def filled (form : Octets) : (fuel : Nat) → List Value → Octets → Octets
  | 0, _, _ | _, _, [] => []
  | fuel + 1, values, '%' :: '%' :: rest => '%' :: filled form fuel values rest
  | fuel + 1, values, '%' :: rest =>
      let stars := (rest.takeWhile fun octet => !octet.isAlpha).count '*'
      let counts := (values.take stars).map fun value => Value.truncated value.toNumber
      let count (text : Octets) : Option (Int × Octets) :=
        match text with
        | '*' :: text => some (counts.headD 0, text)
        | text => Value.plainCount text
      match Value.directive? count rest with
      | none => '%' :: rest
      | some (directive, rest) =>
          let directive :=
            if counts.length = 2 then { directive with precision := (counts[1]?).map Int.toNat }
            else directive
          let values := values.drop stars
          converted form directive (values.headD .unset) ++ filled form fuel values.tail rest
  | fuel + 1, values, octet :: rest => octet :: filled form fuel values rest

end Form

/-! ## Regular expressions -/

def prepared : (inSet : Bool) → Octets → Octets
  | _, [] => []
  | inSet, '\\' :: octet :: rest =>
      let meant : Octets :=
        match octet with
        | '/' => ['/']
        | '"' => ['"']
        | 'n' => ['\n']
        | 't' => ['\t']
        | '&' => ['&']
        | octet => if inSet then [octet] else ['\\', octet]
      meant ++ prepared inSet rest
  | false, '[' :: '^' :: ']' :: rest => '[' :: '^' :: ']' :: prepared true rest
  | false, '[' :: ']' :: rest => '[' :: ']' :: prepared true rest
  | true, '[' :: ':' :: rest => '[' :: ':' :: prepared true rest
  | true, ':' :: ']' :: rest => ':' :: ']' :: prepared true rest
  | false, '[' :: rest => '[' :: prepared true rest
  | true, ']' :: rest => ']' :: prepared false rest
  | inSet, octet :: rest => octet :: prepared inSet rest

def regexOf? (source : Octets) : Option Regex := Regex.parse? .extended (prepared false source)

def partsBetween (regex : Regex) : (fuel : Nat) → (current : Octets) → Text.Place → List Octets
  | 0, current, place => [current.reverse ++ place.rest]
  | fuel + 1, current, place =>
      match regex.ends false place with
      | stop :: _ =>
          if place.position < stop.position then
            current.reverse :: partsBetween regex fuel [] stop
          else
            match place.next? with
            | some (octet, next) => partsBetween regex fuel (octet :: current) next
            | none => [current.reverse]
      | [] =>
          match place.next? with
          | some (octet, next) => partsBetween regex fuel (octet :: current) next
          | none => [current.reverse]

def fieldsOf (separator : Octets) (text : Octets) : List Octets :=
  if text.isEmpty then []
  else
    match separator with
    | [' '] => (text.splitOnP Value.isBlank).filter (· ≠ [])
    | [] => text.map fun octet => [octet]
    | [octet] => text.splitOn octet
    | separator =>
        match regexOf? separator with
        | some regex => partsBetween regex (text.length + 1) [] { rest := text }
        | none => [text]

def replacement (found : Octets) : Octets → Octets
  | [] => []
  | '\\' :: '&' :: rest => '&' :: replacement found rest
  | '\\' :: '\\' :: rest => '\\' :: replacement found rest
  | '&' :: rest => found ++ replacement found rest
  | octet :: rest => octet :: replacement found rest

/-- Replace the first match in a text, or all of them; how many there were. -/
def exchanged (regex : Regex) (all : Bool) (new : Octets) :
    (fuel : Nat) → (afterMatch : Bool) → Text.Place → Octets × Nat
  | 0, _, place => (place.rest, 0)
  | fuel + 1, afterMatch, place =>
      let goOn : Octets × Nat :=
        match place.next? with
        | some (octet, next) =>
            let (text, count) := exchanged regex all new fuel false next
            (octet :: text, count)
        | none => ([], 0)
      match regex.ends false place with
      | stop :: _ =>
          let size := stop.position - place.position
          if size = 0 ∧ afterMatch then goOn
          else
            let put := replacement (place.rest.take size) new
            if !all then (put ++ stop.rest, 1)
            else if size = 0 then
              let (text, count) := goOn
              (put ++ text, count + 1)
            else
              let (text, count) := exchanged regex all new fuel true stop
              (put ++ text, count + 1)
      | [] => goOn

/-! ## Records -/

def firstRecord? (separator : Octets) (text : Octets) : Option (Octets × Octets) :=
  match separator with
  | [] =>
      match text.dropWhile (· = '\n') with
      | [] => none
      | text => some (paragraph text)
  | [octet] =>
      if text.isEmpty then none
      else
        let record := text.takeWhile (· ≠ octet)
        some (record, text.drop (record.length + 1))
  | separator =>
      if text.isEmpty then none
      else
        match (regexOf? separator).bind fun regex => regex.search false { rest := text } with
        | some found => some (text.take found.start, found.stop.rest)
        | none => some (text, [])
where
  paragraph : Octets → Octets × Octets
    | [] => ([], [])
    | ['\n'] => ([], [])
    | '\n' :: '\n' :: rest => ([], rest.dropWhile (· = '\n'))
    | octet :: rest =>
        let (record, rest) := paragraph rest
        (octet :: record, rest)

end BuiltinWrappers.Script.Record
