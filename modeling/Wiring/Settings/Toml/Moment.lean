import Wiring.Settings.Value
import Wiring.Text.Integer

/-!
# Settings · TOML · Moments

Dates and times of a TOML file. A moment is a date, a time of day, or both, and then perhaps with an
offset from universal time. In the settings tree a moment is a table with a single field that holds
its text; the text has one form only, whatever the file has: a capital letter between date and time
and for universal time, no fraction beyond the ninth digit and no zeros at the end of one.
-/

namespace Wiring.Settings.Toml

/-! ## Parts of a moment -/

/-- A day of the calendar. -/
structure Date where
  /-- The year. -/
  year : Nat
  /-- The month, from one on. -/
  month : Nat
  /-- The day of the month, from one on. -/
  day : Nat
deriving DecidableEq, Repr

/-- A time of day. -/
structure TimeOfDay where
  /-- The hour. -/
  hour : Nat
  /-- The minute. -/
  minute : Nat
  /-- The second. -/
  second : Nat
  /-- The digits of the fraction of a second. -/
  fraction : List Char
deriving DecidableEq, Repr

/-- How far a time of day is from universal time. -/
inductive Offset
  /-- It is universal time. -/
  | universal
  /-- It is ahead of universal time by some minutes. -/
  | ahead (minutes : Int)
deriving DecidableEq, Repr

/-- A date, a time of day, or both. -/
inductive Moment
  /-- A date alone. -/
  | onDate (date : Date)
  /-- A time of day alone. -/
  | atTime (time : TimeOfDay)
  /-- A date with a time of day, and perhaps its offset. -/
  | onDateAt (date : Date) (time : TimeOfDay) (offset : Option Offset)
deriving DecidableEq, Repr

/-! ## Reading -/

/-- Whether a year has a leap day. -/
def isLeapYear (year : Nat) : Bool :=
  year % 4 == 0 && (year % 100 != 0 || year % 400 == 0)

/-- How many days a month has. -/
def daysOfMonth (year month : Nat) : Nat :=
  if month = 2 then if isLeapYear year then 29 else 28
  else if [4, 6, 9, 11].contains month then 30
  else 31

/-- Reads a number of a certain count of digits that lies between two bounds. -/
def readNumber (count low high : Nat) (cs : List Char) : Option (Nat × List Char) := do
  let digits := cs.take count
  if digits.length < count then none
  let n ← Text.digitsValue? 10 Text.digitValue? 0 digits
  if low ≤ n ∧ n ≤ high then some (n, cs.drop count) else none

/-- Reads a character that is expected. -/
def readMark (mark : Char) : List Char → Option (List Char)
  | c :: rest => if c = mark then some rest else none
  | [] => none

/-- Reads a date, whose day exists. -/
def readDate (cs : List Char) : Option (Date × List Char) := do
  let (year, rest) ← readNumber 4 0 9999 cs
  let (month, rest) ← readNumber 2 1 12 (← readMark '-' rest)
  let (day, rest) ← readNumber 2 1 (daysOfMonth year month) (← readMark '-' rest)
  return (⟨year, month, day⟩, rest)

/-- The digits of a fraction that count: nine at most, and no zeros at the end. -/
def countedDigits (digits : List Char) : List Char :=
  ((digits.take 9).reverse.dropWhile (· == '0')).reverse

/-- Reads the fraction of a second, if there is one. -/
def readFraction (cs : List Char) : Option (List Char × List Char) :=
  match cs with
  | '.' :: rest =>
    let digits := rest.takeWhile Char.isDigit
    if digits.isEmpty then none else some (countedDigits digits, rest.dropWhile Char.isDigit)
  | _ => some ([], cs)

/-- Reads a time of day. A minute may have a leap second. -/
def readTime (cs : List Char) : Option (TimeOfDay × List Char) := do
  let (hour, rest) ← readNumber 2 0 23 cs
  let (minute, rest) ← readNumber 2 0 59 (← readMark ':' rest)
  let (second, rest) ← readNumber 2 0 60 (← readMark ':' rest)
  let (fraction, rest) ← readFraction rest
  return (⟨hour, minute, second, fraction⟩, rest)

/-- Reads the hours and minutes of an offset. -/
def readMinutes (cs : List Char) : Option (Nat × List Char) := do
  let (hours, rest) ← readNumber 2 0 23 cs
  let (minutes, rest) ← readNumber 2 0 59 (← readMark ':' rest)
  return (60 * hours + minutes, rest)

/-- Reads an offset. -/
def readOffset : List Char → Option (Offset × List Char)
  | 'Z' :: rest | 'z' :: rest => some (.universal, rest)
  | '+' :: rest => (readMinutes rest).map fun (minutes, rest) => (.ahead minutes, rest)
  | '-' :: rest => (readMinutes rest).map fun (minutes, rest) => (.ahead (-minutes), rest)
  | _ => none

/-- Reads what follows a date: the mark before the time, the time, and perhaps an offset. -/
def Moment.ofDate? (date : Date) : List Char → Option Moment
  | [] => some (.onDate date)
  | mark :: rest => do
    if !(mark == 'T' || mark == 't' || mark == ' ') then none
    match ← readTime rest with
    | (time, []) => return .onDateAt date time none
    | (time, rest) =>
      match ← readOffset rest with
      | (offset, []) => return .onDateAt date time (some offset)
      | _ => none

/-- The moment that some characters spell. -/
def Moment.ofText? (cs : List Char) : Option Moment :=
  match readDate cs with
  | some (date, rest) => Moment.ofDate? date rest
  | none =>
    match readTime cs with
    | some (time, []) => some (.atTime time)
    | _ => none

/-! ## Writing -/

/-- A number with zeros in front, up to a certain count of digits. -/
def padded (count n : Nat) : List Char :=
  (Nat.toDigits 10 n).leftpad count '0'

/-- The text of a date. -/
def Date.text (d : Date) : List Char :=
  padded 4 d.year ++ '-' :: padded 2 d.month ++ '-' :: padded 2 d.day

/-- The text of a time of day. -/
def TimeOfDay.text (t : TimeOfDay) : List Char :=
  padded 2 t.hour ++ ':' :: padded 2 t.minute ++ ':' :: padded 2 t.second ++
    if t.fraction.isEmpty then [] else '.' :: t.fraction

/-- The text of an offset. -/
def Offset.text : Offset → List Char
  | universal => ['Z']
  | ahead minutes =>
    let n := minutes.natAbs
    (if minutes < 0 then '-' else '+') :: padded 2 (n / 60) ++ ':' :: padded 2 (n % 60)

namespace Moment

/-- The text of a moment. -/
def text : Moment → List Char
  | onDate date => date.text
  | atTime time => time.text
  | onDateAt date time offset =>
    date.text ++ 'T' :: time.text ++ (offset.map Offset.text).getD []

/-- The key of the field that holds the text of a moment. -/
def fieldName : String := "$__toml_private_datetime"

/-- A moment in the settings tree. -/
def value (m : Moment) : Value :=
  .table [(fieldName, .text (.ofList m.text))]

end Moment

end Wiring.Settings.Toml
