import Mustache.Text.Blank
import Mustache.Text.Case
import Mustache.Text.Digit
import Mustache.View.Display
import Mustache.View.Host

/-!
**A catalogue of attributes.**

Some attributes of texts, bytes, numbers, days, moments and clocks, and what those among them that
are methods answer. It is what a host of recipes knows of these values, not all that there is;
letters are those of ASCII.

* `Catalogue.attribute?`: the attribute of a value.
* `Catalogue.answer`: what a method answers for its receiver.
* `Catalogue.access`: the attributes of the catalogue, all of which can be read.
* `Catalogue.host`: a host that knows of nothing else.
-/

namespace Mustache.Catalogue

/-! ### Attributes -/

/-- A method of a value, if its name is one of some. -/
def methodAmong? (names : List String) (value : Value) (name : String) : Option Value :=
  if names.contains name then some (.method value name) else none

/-- The methods of a text. -/
def textMethods : List String :=
  ["upper", "lower", "title", "swapcase", "strip", "split", "isdigit", "encode", "replace", "join"]

/-- The methods of bytes. -/
def bytesMethods : List String := ["upper", "decode", "hex"]

/-- The methods of a float. -/
def floatMethods : List String := ["is_integer", "hex"]

/-- The methods that days and moments share. -/
def dayMethods : List String :=
  ["isoformat", "ctime", "weekday", "isoweekday", "toordinal", "replace", "strftime",
    "fromisoformat", "fromordinal", "fromtimestamp", "fromisocalendar"]

/-- The methods that only moments have. -/
def momentMethods : List String :=
  ["date", "tzname", "dst", "strptime", "combine", "utcfromtimestamp"]

/-- The methods of a clock, all of which take arguments. -/
def zoneMethods : List String := ["utcoffset", "tzname", "dst", "fromutc"]

/-- The attributes of a whole number, which truth values share. -/
def intAttribute? (number : Int) (name : String) : Option Value :=
  match name with
  | "real" => some (.ofInt number)
  | "numerator" => some (.ofInt number)
  | "imag" => some (.ofInt 0)
  | "denominator" => some (.ofInt 1)
  | name => methodAmong? ["bit_length", "conjugate"] (.ofInt number) name

/-- The attributes of a float. -/
def floatAttribute? (number : Binary64) (name : String) : Option Value :=
  match name with
  | "real" => some (.float number)
  | "imag" => some (.float .zero)
  | name => methodAmong? floatMethods (.float number) name

/-- The attributes that days and moments share, with the first and the last of either sort. -/
def dayAttribute? (value first last : Value) (date : Date) (name : String) : Option Value :=
  match name with
  | "year" => some (.ofInt date.year)
  | "month" => some (.ofInt date.month)
  | "day" => some (.ofInt date.day)
  | "min" => some first
  | "max" => some last
  | name => methodAmong? dayMethods value name

/-- The attributes of a day. -/
def dateAttribute? (date : Date) (name : String) : Option Value :=
  dayAttribute? (.date date) (.date Date.first) (.date Date.last) date name

/-- The attributes of a moment. -/
def momentAttribute? (moment : Moment) (name : String) : Option Value :=
  match name with
  | "hour" => some (.ofInt moment.hour)
  | "minute" => some (.ofInt moment.minute)
  | "second" => some (.ofInt moment.second)
  | "microsecond" => some (.ofInt moment.microsecond)
  | "fold" => some (.ofInt 0)
  | "tzinfo" => some ((moment.zone.map Value.zone).getD .null)
  | name =>
    (methodAmong? momentMethods (.moment moment) name).orElse fun _ =>
      dayAttribute? (.moment moment) (.moment Moment.first) (.moment Moment.last) moment.date name

/-- **The attribute of a value** that the catalogue has. -/
def attribute? (value : Value) (name : String) : Option Value :=
  match value with
  | .text _ => methodAmong? textMethods value name
  | .bytes _ => methodAmong? bytesMethods value name
  | .bool flag => intAttribute? (if flag then 1 else 0) name
  | .int number _ => intAttribute? number name
  | .float number => floatAttribute? number name
  | .date day => dateAttribute? day name
  | .moment time => momentAttribute? time name
  | .zone _ => methodAmong? zoneMethods value name
  | _ => none

/-- The attributes of the catalogue, all of which can be read. -/
def access : Access := .ofTable attribute?

/-! ### Methods -/

/-- The words of a text: what stands between its blanks. -/
def words (text : List Char) : List (List Char) :=
  (text.splitBy fun first second => Text.isBlank first == Text.isBlank second).filter
    fun part => !part.all Text.isBlank

/-- The bytes of an ASCII text in upper case. -/
def upperByte (byte : UInt8) : UInt8 := if 97 ≤ byte ∧ byte ≤ 122 then byte - 32 else byte

/-- What a method of a text answers. -/
def answerOfText (content : String) (name : String) : Except Fault Value :=
  match name with
  | "upper" => .ok (.text (Text.upper content))
  | "lower" => .ok (.text (Text.lower content))
  | "title" => .ok (.text (Text.title content))
  | "swapcase" => .ok (.text (Text.swapCase content))
  | "strip" => .ok (.text (Text.strip content))
  | "split" => .ok (.list ((words content.toList).map fun word => .text (String.ofList word)))
  | "isdigit" => .ok (.bool (Text.allDigits content.toList))
  | "encode" => .ok (.bytes (Text.Utf8.encode content))
  | _ => .error .wrongType

/-- What a method of bytes answers. -/
def answerOfBytes (content : List UInt8) (name : String) : Except Fault Value :=
  match name with
  | "upper" => .ok (.bytes (content.map upperByte))
  | "hex" => .ok (.text (String.join (content.map Text.Utf8.byteDigits)))
  | "decode" =>
    match Text.Utf8.decode content with
    | .ok text => .ok (.text text)
    | .error fault => .error (.malformedText fault)
  | _ => .error .wrongType

/-- The number of binary digits of a number without its sign. -/
def binaryDigits (number : Int) : Nat :=
  if number = 0 then 0 else number.natAbs.log2 + 1

/-- What a method of a whole number answers. -/
def answerOfInt (number : Int) (name : String) : Except Fault Value :=
  match name with
  | "bit_length" => .ok (.ofInt (binaryDigits number))
  | "conjugate" => .ok (.ofInt number)
  | _ => .error .wrongType

/-- What a method of a float answers. -/
def answerOfFloat (number : Binary64) (name : String) : Except Fault Value :=
  match name with
  | "is_integer" => .ok (.bool number.isWhole)
  | "hex" => .ok (.text number.hexText)
  | _ => .error .wrongType

/-- What a method that days and moments share answers. -/
def answerOfDay (value : Value) (date : Date) (text words : String) (name : String) :
    Except Fault Value :=
  match name with
  | "isoformat" => .ok (.text text)
  | "ctime" => .ok (.text words)
  | "weekday" => .ok (.ofInt date.weekday)
  | "isoweekday" => .ok (.ofInt (date.weekday + 1))
  | "toordinal" => .ok (.ofInt date.ordinal)
  | "replace" => .ok value
  | _ => .error .wrongType

/-- What a method of a moment answers. -/
def answerOfMoment (moment : Moment) (name : String) : Except Fault Value :=
  match name with
  | "date" => .ok (.date moment.date)
  | "tzname" => .ok ((moment.zone.map fun zone => .text zone.name).getD .null)
  | "dst" => .ok .null
  | name => answerOfDay (.moment moment) moment.date (moment.text "T") moment.words name

/-- **What a method answers for its receiver**, called without arguments; some methods need
arguments. -/
def answer (receiver : Value) (name : String) : Except Fault Value :=
  match receiver with
  | .text content => answerOfText content name
  | .bytes content => answerOfBytes content name
  | .int number _ => answerOfInt number name
  | .float number => answerOfFloat number name
  | .date date => answerOfDay (.date date) date date.text (date.words "00:00:00") name
  | .moment moment => answerOfMoment moment name
  | _ => .error .wrongType

/-- **The host of the catalogue**, for views without functions. -/
def host : Host Unit :=
  { Host.idle with
    access := access
    invoke := fun receiver name state => (answer receiver name, state) }

end Mustache.Catalogue
