import Mustache.Text.Digit

/-!
**Days of the calendar.**

Every fourth year is a leap year, but of the full centuries only every fourth. Years have four
digits, from year one on.

* `TimeFault`: why numbers make no day or no time.
* `Date`: the days there are.
* `Date.ofParts`: the day of a year, a month and a day, or the first of these that does not fit.
* `Date.ordinal`, `Date.weekday`, `Date.next?`: the number of a day, its place in the week, and the
  day after it.
* `Date.text`: a day with the year in front.
-/

namespace Mustache

/-- Why numbers make no day or no time: the first of them that does not fit. -/
inductive TimeFault where
  | year (year : Nat)
  | month
  | day
  | hour
  | minute
  | second
  /-- A clock that is a whole day or more apart; the distance is shown as it is measured. -/
  | offset (shown : String)
  deriving DecidableEq, Repr

/-- The report of a fault. -/
def TimeFault.message : TimeFault → String
  | .year number => "year " ++ toString number ++ " is out of range"
  | .month => "month must be in 1..12"
  | .day => "day is out of range for month"
  | .hour => "hour must be in 0..23"
  | .minute => "minute must be in 0..59"
  | .second => "second must be in 0..59"
  | .offset shown =>
    "offset must be a timedelta strictly between -timedelta(hours=24) and timedelta(hours=24), " ++
      "not " ++ shown ++ "."

namespace Calendar

/-- A leap year. -/
def isLeap (year : Nat) : Bool := year % 4 == 0 && (year % 100 != 0 || year % 400 == 0)

/-- The number of days of a month. -/
def daysInMonth (year month : Nat) : Nat :=
  match month with
  | 2 => if isLeap year then 29 else 28
  | 4 | 6 | 9 | 11 => 30
  | _ => 31

/-- The number of days of a year before a month. -/
def daysBeforeMonth (year month : Nat) : Nat :=
  (List.range (month - 1)).foldl (fun days before => days + daysInMonth year (before + 1)) 0

/-- The number of days before a year. -/
def daysBeforeYear (year : Nat) : Nat :=
  let past := year - 1
  past * 365 + past / 4 - past / 100 + past / 400

/-- The first of three numbers that fits in no day. -/
def dayFault? (year month day : Nat) : Option TimeFault :=
  if year < 1 || 9999 < year then some (.year year)
  else if month < 1 || 12 < month then some .month
  else if day < 1 || daysInMonth year month < day then some .day
  else none

/-- A number with zeros in front up to a width. -/
def padded (width number : Nat) : String :=
  let digits := toString number
  "".pushn '0' (width - digits.length) ++ digits

end Calendar

open Calendar

/-- A day. -/
structure Date where
  year : Nat
  month : Nat
  day : Nat
  fits : dayFault? year month day = none
  deriving DecidableEq, Repr

namespace Date

/-- **The day of three numbers**, or the first of them that does not fit. -/
def ofParts (year month day : Nat) : Except TimeFault Date :=
  match fits : dayFault? year month day with
  | none => .ok ⟨year, month, day, fits⟩
  | some fault => .error fault

/-- The first day of all. -/
def first : Date := ⟨1, 1, 1, rfl⟩

/-- The last day of all. -/
def last : Date := ⟨9999, 12, 31, rfl⟩

/-- The number of a day; the first day of all has the number one. -/
def ordinal (date : Date) : Nat :=
  daysBeforeYear date.year + daysBeforeMonth date.year date.month + date.day

/-- The place of a day in its week, from zero for a Monday on. -/
def weekday (date : Date) : Nat := (date.ordinal + 6) % 7

/-- The day after a day; none after the last day of all. -/
def next? (date : Date) : Option Date :=
  (if date.day < daysInMonth date.year date.month then
    ofParts date.year date.month (date.day + 1)
  else if date.month < 12 then ofParts date.year (date.month + 1) 1
  else ofParts (date.year + 1) 1 1).toOption

/-- **A day as a text**: the year, the month and the day. -/
def text (date : Date) : String :=
  padded 4 date.year ++ "-" ++ padded 2 date.month ++ "-" ++ padded 2 date.day

/-- The names of the days of the week. -/
def weekdayNames : List String := ["Mon", "Tue", "Wed", "Thu", "Fri", "Sat", "Sun"]

/-- The names of the months. -/
def monthNames : List String :=
  ["Jan", "Feb", "Mar", "Apr", "May", "Jun", "Jul", "Aug", "Sep", "Oct", "Nov", "Dec"]

/-- A day and a time of the clock in words. -/
def words (date : Date) (clock : String) : String :=
  let day := toString date.day
  weekdayNames.getD date.weekday "" ++ " " ++ monthNames.getD (date.month - 1) "" ++ " " ++
    "".pushn ' ' (2 - day.length) ++ day ++ " " ++ clock ++ " " ++ padded 4 date.year

end Date

end Mustache
