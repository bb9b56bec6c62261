import BuiltinWrappers.Text.Digits

/-!
# Dates and times

The four kinds of moment that a document can hold: a date, a time of day, both
together, and both with an offset from universal time.  Only moments that the
calendar and the clock have are read.
-/

namespace BuiltinWrappers.Toml

structure Date where
  year : Nat
  month : Nat
  day : Nat
  deriving DecidableEq, Repr

structure Time where
  hour : Nat
  minute : Nat
  second : Nat
  fraction : String
  deriving DecidableEq, Repr

inductive Moment where
  | date (date : Date)
  | time (time : Time)
  | dateTime (date : Date) (time : Time)
  | offsetDateTime (date : Date) (time : Time) (offsetMinutes : Int)
  deriving DecidableEq, Repr

/-! ## Numbers of a fixed width -/

def fixedNumber? (width : Nat) (digits : List Char) : Option Nat :=
  if digits.length = width ∧ digits.all Char.isDigit then some (Text.ofDigits 10 digits)
  else none

def boundedNumber? (largest : Nat) (digits : List Char) : Option Nat :=
  (fixedNumber? 2 digits).filter (· ≤ largest)

/-! ## The parts of a moment -/

def isLeapYear (year : Nat) : Bool :=
  year % 4 = 0 && (year % 100 ≠ 0 || year % 400 = 0)

def daysInMonth (year month : Nat) : Nat :=
  if month = 2 then if isLeapYear year then 29 else 28
  else if month ∈ [4, 6, 9, 11] then 30
  else 31

def Date.parse? (text : List Char) : Option Date :=
  match text.splitOn '-' with
  | [yearDigits, monthDigits, dayDigits] => do
      let year ← fixedNumber? 4 yearDigits
      let month ← boundedNumber? 12 monthDigits
      let day ← boundedNumber? (daysInMonth year month) dayDigits
      if month = 0 ∨ day = 0 then none else some ⟨year, month, day⟩
  | _ => none

def secondParts? (text : List Char) : Option (Nat × String) :=
  match text.splitOn '.' with
  | [digits] => (boundedNumber? 60 digits).map (·, "")
  | [digits, fraction] =>
      if fraction ≠ [] ∧ fraction.all Char.isDigit then
        (boundedNumber? 60 digits).map (·, .ofList fraction)
      else none
  | _ => none

def Time.parse? (text : List Char) : Option Time :=
  match text.splitOn ':' with
  | [hourDigits, minuteDigits] => do
      return ⟨← boundedNumber? 23 hourDigits, ← boundedNumber? 59 minuteDigits, 0, ""⟩
  | [hourDigits, minuteDigits, secondText] => do
      let hour ← boundedNumber? 23 hourDigits
      let minute ← boundedNumber? 59 minuteDigits
      let (second, fraction) ← secondParts? secondText
      return ⟨hour, minute, second, fraction⟩
  | _ => none

def offset? : List Char → Option Int
  | ['Z'] | ['z'] => some 0
  | sign :: text =>
      match text.splitOn ':' with
      | [hourDigits, minuteDigits] => do
          let hour ← boundedNumber? 23 hourDigits
          let minute ← boundedNumber? 59 minuteDigits
          let minutes : Int := 60 * hour + minute
          if sign = '+' then some minutes
          else if sign = '-' then some (-minutes)
          else none
      | _ => none
  | [] => none

def isDateEnd (character : Char) : Bool :=
  character = 'T' || character = 't' || character = ' '

def isOffsetStart (character : Char) : Bool :=
  character = 'Z' || character = 'z' || character = '+' || character = '-'

def Moment.parse? (text : List Char) : Option Moment :=
  match text.dropWhile (!isDateEnd ·) with
  | [] =>
      (Date.parse? text).map .date <|> (Time.parse? text).map .time
  | _ :: timeText => do
      let date ← Date.parse? (text.takeWhile (!isDateEnd ·))
      let time ← Time.parse? (timeText.takeWhile (!isOffsetStart ·))
      match timeText.dropWhile (!isOffsetStart ·) with
      | [] => return .dateTime date time
      | offsetText => return .offsetDateTime date time (← offset? offsetText)

/-! ## Examples -/

example : Moment.parse? "2024-02-29T07:32Z".toList =
    some (.offsetDateTime ⟨2024, 2, 29⟩ ⟨7, 32, 0, ""⟩ 0) := by decide +kernel

example : Moment.parse? "2023-02-29".toList = none := by decide +kernel

end BuiltinWrappers.Toml
