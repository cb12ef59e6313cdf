import Mustache.Calendar.Date

/-!
**Moments.**

A moment is a day and a time of its clock, which may be told apart from other clocks by its
distance from universal time.

* `Zone`: the distance of a clock.
* `Moment`: the moments.
* `Moment.ofParts`: the moment of some numbers, or the first of them that does not fit.
* `Moment.same`: whether two moments are the same.
* `Moment.text`: a moment with the year in front.
-/

namespace Mustache

open Calendar

/-- The distance of a clock from universal time, in minutes, and the name it was given. -/
structure Zone where
  minutes : Int
  name : String
  deriving DecidableEq, Repr

namespace Zone

/-- The minutes of a day. -/
def dayMinutes : Int := 1440

/-- A distance as it is measured: in days, which may be negative, and in seconds. -/
def measure (minutes : Int) : String :=
  let days := minutes.fdiv dayMinutes
  let seconds := minutes.fmod dayMinutes * 60
  let parts := (if days = 0 then [] else ["days=" ++ toString days]) ++
    (if seconds = 0 then [] else ["seconds=" ++ toString seconds])
  "datetime.timedelta(" ++ (if parts.isEmpty then "0" else ", ".intercalate parts) ++ ")"

/-- A clock with a name, which has to be less than a day away. -/
def ofMinutes (minutes : Int) (name : String) : Except TimeFault Zone :=
  if minutes.natAbs < dayMinutes.natAbs then .ok ⟨minutes, name⟩
  else .error (.offset (measure minutes))

/-- The distance of a clock in hours and minutes. -/
def text (zone : Zone) : String :=
  let size := zone.minutes.natAbs
  (if zone.minutes < 0 then "-" else "+") ++ padded 2 (size / 60) ++ ":" ++ padded 2 (size % 60)

end Zone

/-- A day, a time of the clock, and the distance of the clock if it is known. -/
structure Moment where
  date : Date
  hour : Nat
  minute : Nat
  second : Nat
  microsecond : Nat
  zone : Option Zone
  deriving DecidableEq, Repr

namespace Moment

/-- The first number of a time that does not fit. -/
def clockFault? (hour minute second : Nat) : Option TimeFault :=
  if 23 < hour then some .hour
  else if 59 < minute then some .minute
  else if 59 < second then some .second
  else none

/-- **The moment of some numbers**, or the first of them that does not fit. -/
def ofParts (year month day hour minute second microsecond : Nat) (zone : Option Zone) :
    Except TimeFault Moment :=
  match Date.ofParts year month day, clockFault? hour minute second with
  | .error fault, _ => .error fault
  | .ok _, some fault => .error fault
  | .ok date, none => .ok ⟨date, hour, minute, second, microsecond, zone⟩

/-- The first moment of all. -/
def first : Moment := ⟨Date.first, 0, 0, 0, 0, none⟩

/-- The last moment of all. -/
def last : Moment := ⟨Date.last, 23, 59, 59, 999999, none⟩

/-- A moment one second later; none after the end of the last day. -/
def later? (moment : Moment) : Option Moment :=
  if moment.second < 59 then some { moment with second := moment.second + 1 }
  else if moment.minute < 59 then
    some { moment with minute := moment.minute + 1, second := 0 }
  else if moment.hour < 23 then
    some { moment with hour := moment.hour + 1, minute := 0, second := 0 }
  else
    moment.date.next?.map fun date =>
      { moment with date := date, hour := 0, minute := 0, second := 0 }

/-- The microseconds up to a moment in universal time, for a clock with a distance. -/
def instant (moment : Moment) (minutes : Int) : Int :=
  let ownMinutes : Int := (moment.date.ordinal * 24 + moment.hour) * 60 + moment.minute
  ((ownMinutes - minutes) * 60 + moment.second) * 1000000 + moment.microsecond

/-- **Whether two moments are the same.** A moment of a clock whose distance is known is none of a
clock whose distance is not. -/
def same (first second : Moment) : Bool :=
  match first.zone, second.zone with
  | some one, some other => first.instant one.minutes == second.instant other.minutes
  | none, none => first == second
  | _, _ => false

/-- The time of the clock, with as many digits as it needs. -/
def clock (moment : Moment) : String :=
  padded 2 moment.hour ++ ":" ++ padded 2 moment.minute ++ ":" ++ padded 2 moment.second ++
    (if moment.microsecond = 0 then "" else "." ++ padded 6 moment.microsecond)

/-- **A moment as a text**: the day, the time of the clock, and the distance of the clock. -/
def text (separator : String) (moment : Moment) : String :=
  moment.date.text ++ separator ++ moment.clock ++ (moment.zone.map Zone.text).getD ""

/-- A moment in words, without fractions of a second. -/
def words (moment : Moment) : String :=
  moment.date.words ({ moment with microsecond := 0 } : Moment).clock

end Moment

end Mustache
