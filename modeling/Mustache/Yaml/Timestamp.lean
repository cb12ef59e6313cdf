import Mustache.Text.Digit
import Mustache.View.Value
import Mustache.Yaml.Defect

/-!
**Timestamps.**

A timestamp is a day, or a day with a time of the clock: hours, minutes, seconds, perhaps a fraction
of a second, and perhaps the distance of the clock from universal time.

* `Timestamp.read?`: the day or the moment that a text of this shape denotes.
-/

namespace Mustache.Yaml.Timestamp

/-! ### Parts -/

/-- What follows a sign at the start of a text. -/
def behind? (sign : Char) : List Char → Option (List Char)
  | [] => none
  | char :: rest => if char == sign then some rest else none

/-- The number that digits denote. -/
def numberOf (digits : List Char) : Nat := (Text.readDecimalFrom? 0 digits).getD 0

/-- The number that all digits at the start of a text denote, and the rest, if there are at least
and at most so many. -/
def readNumber? (least most : Nat) (text : List Char) : Option (Nat × List Char) :=
  let (digits, rest) := text.span Text.isAsciiDigit
  if least ≤ digits.length && digits.length ≤ most then some (numberOf digits, rest) else none

/-- What follows the sign between a day and a time: a letter, or spaces. -/
def behindSeparator? : List Char → Option (List Char)
  | 'T' :: rest | 't' :: rest => some rest
  | ' ' :: rest => some (rest.dropWhile (· == ' '))
  | _ => none

/-- The digits of a fraction of a second, and the rest. -/
def readFraction : List Char → List Char × List Char
  | '.' :: rest => rest.span Text.isAsciiDigit
  | text => ([], text)

/-- The microseconds of a fraction of a second, rounded by its seventh digit; there may be a million
of them. -/
def microseconds (fraction : List Char) : Nat :=
  let digits := fraction.take 6
  let size := numberOf digits * Nat.pow 10 (6 - digits.length)
  if numberOf ((fraction.drop 6).take 1) < 5 then size else size + 1

/-- The distance of a clock as it is written: its sign, and the minutes. -/
def readDistance? (text : List Char) : Option Int := do
  let (sign, rest) ← match text with
    | '-' :: rest => some (-1, rest)
    | '+' :: rest => some (1, rest)
    | _ => none
  let (hours, rest) ← readNumber? 1 2 rest
  if rest.isEmpty then some (sign * (hours * 60 : Nat))
  else
    let (minutes, rest) ← readNumber? 2 2 (← behind? ':' rest)
    if rest.isEmpty then some (sign * (hours * 60 + minutes : Nat)) else none

/-- The clock that a text denotes, which may be left out. -/
def readZone? (text : List Char) : Option (Except TimeFault (Option Zone)) :=
  if text.isEmpty then some (.ok none)
  else
    let name := text.dropWhile (· == ' ')
    let minutes? := if name == ['Z'] then some 0 else readDistance? name
    minutes?.map fun minutes => (Zone.ofMinutes minutes (String.ofList name)).map some

/-! ### Timestamps -/

/-- The day of three numbers. -/
def dayValue (year month day : Nat) : Except Defect Value :=
  ((Date.ofParts year month day).map Value.date).mapError .badTime

/-- A moment with a million microseconds counted as a second. -/
def carried (moment : Moment) : Except Defect Value :=
  if moment.microsecond < 1000000 then .ok (.moment moment)
  else
    match ({ moment with microsecond := 0 } : Moment).later? with
    | some later => .ok (.moment later)
    | none => .error .beyondBounds

/-- **The day or the moment that a text of the shape of a timestamp denotes**, or why it denotes
none. A day that stands alone has two digits for its month and two for its day. -/
def read? (text : List Char) : Option (Except Defect Value) := do
  let (year, rest) ← readNumber? 4 4 text
  let (month, rest) ← readNumber? 1 2 (← behind? '-' rest)
  let (day, rest) ← readNumber? 1 2 (← behind? '-' rest)
  if rest.isEmpty then if text.length == 10 then some (dayValue year month day) else none
  else
    let (hour, rest) ← readNumber? 1 2 (← behindSeparator? rest)
    let (minute, rest) ← readNumber? 2 2 (← behind? ':' rest)
    let (second, rest) ← readNumber? 2 2 (← behind? ':' rest)
    let (fraction, rest) := readFraction rest
    let zone ← readZone? rest
    some (match zone with
      | .error fault => .error (.badTime fault)
      | .ok zone =>
        match Moment.ofParts year month day hour minute second (microseconds fraction) zone with
        | .error fault => .error (.badTime fault)
        | .ok moment => carried moment)

end Mustache.Yaml.Timestamp
