import MediaShelf.Json.Record
import MediaShelf.Text.Numeral

/-!
# Air dates

A date of the proleptic Gregorian calendar with a year from -9999 to 9999. A value of the type is a
real date: that the month has the day is part of it, so no reader of dates has to check again.

A date is written `YYYY-MM-DD`, with `-` in front of a negative year. It is read from that form,
where the year may have either sign, and from a year with a day of the year.
-/

namespace MediaShelf

namespace Calendar

/-- Every fourth year is a leap year, except that of the centuries only every fourth is. -/
def isLeapYear (year : Int) : Bool :=
  year % 4 == 0 && (year % 100 != 0 || year % 400 == 0)

/-- The number of days in a month; none for a number that is no month. -/
def daysInMonth (year : Int) (month : Nat) : Nat :=
  match month with
  | 1 | 3 | 5 | 7 | 8 | 10 | 12 => 31
  | 4 | 6 | 9 | 11 => 30
  | 2 => if isLeapYear year then 29 else 28
  | _ => 0

/-- Whether a year, a month and a day name a date. -/
def IsDate (year : Int) (month day : Nat) : Prop :=
  -9999 ≤ year ∧ year ≤ 9999 ∧ 1 ≤ month ∧ month ≤ 12 ∧ 1 ≤ day ∧ day ≤ daysInMonth year month

instance (year : Int) (month day : Nat) : Decidable (IsDate year month day) :=
  inferInstanceAs (Decidable (_ ∧ _))

end Calendar

/-- A date of the calendar. -/
structure Date where
  /-- The year; year 0 comes before year 1. -/
  year : Int
  /-- The month, from 1. -/
  month : Nat
  /-- The day of the month, from 1. -/
  day : Nat
  /-- The month has the day. -/
  isDate : Calendar.IsDate year month day
deriving DecidableEq

namespace Date

/-- The date with a year, a month and a day, if there is one. -/
def ofParts? (year : Int) (month day : Nat) : Option Date :=
  if h : Calendar.IsDate year month day then some ⟨year, month, day, h⟩ else none

/-- Counts `days` days on from the first of `month`, through at most `months` months. -/
def ofDaysFrom? (year : Int) (month : Nat) (months days : Nat) : Option Date :=
  match months with
  | 0 => none
  | months + 1 =>
    let length := Calendar.daysInMonth year month
    if days < length then ofParts? year month (days + 1)
    else ofDaysFrom? year (month + 1) months (days - length)

/-- The date with a year and a day of the year, counted from 1. -/
def ofOrdinal? (year : Int) (dayOfYear : Nat) : Option Date :=
  if dayOfYear = 0 then none else ofDaysFrom? year 1 12 (dayOfYear - 1)

/-- Whether a date is earlier than another. -/
def before (a b : Date) : Bool :=
  a.year < b.year || (a.year == b.year
    && (a.month < b.month || (a.month == b.month && a.day < b.day)))

/-- The text of a date. -/
def print (date : Date) : List Char :=
  (if date.year < 0 then ['-'] else [])
    ++ Text.paddedDigits 4 date.year.natAbs ++ '-' :: Text.paddedDigits 2 date.month
    ++ '-' :: Text.paddedDigits 2 date.day

/-- The text of a date as a string. -/
def render (date : Date) : String :=
  String.ofList (print date)

/-- Reads a date without the sign of its year. -/
def readUnsigned? (negative : Bool) (cs : List Char) : Option Date := do
  let [y₁, y₂, y₃, y₄, '-', m₁, m₂, '-', d₁, d₂] := cs | none
  let year ← Text.readDigits [y₁, y₂, y₃, y₄]
  let month ← Text.readDigits [m₁, m₂]
  let day ← Text.readDigits [d₁, d₂]
  ofParts? (if negative then -Int.ofNat year else Int.ofNat year) month day

/-- Reads the text of a date. -/
def read? : List Char → Option Date
  | '-' :: rest => readUnsigned? true rest
  | '+' :: rest => readUnsigned? false rest
  | rest => readUnsigned? false rest

/-- Reads a date from JSON: from its text, or from an array of a year and a day of the year. -/
def ofJson? : Json → Option Date
  | .str s => read? s.toList
  | .arr [year, dayOfYear] => do
    let year ← Json.intIn? .signed year
    let dayOfYear ← Json.intIn? ⟨0, 65535⟩ dayOfYear
    ofOrdinal? year dayOfYear.toNat
  | _ => none

/-- Writes a date to JSON. -/
def toJson (date : Date) : Json :=
  .str date.render

end Date

end MediaShelf
