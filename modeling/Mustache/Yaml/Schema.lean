import Mustache.Number.Numeral
import Mustache.Number.Reader
import Mustache.Text.Case
import Mustache.Yaml.Timestamp

/-!
**What plain scalars mean.**

A plain scalar is no value, a truth value, a number, a day, a moment or a text, depending on its
characters alone. A whole number may be written in binary, octal, decimal or hexadecimal digits;
underscores between the digits do not count. A scalar that looks like a number but has no digits at
all is a fault, and so is one that looks like a day but is none.

* `Plain`: what a plain scalar is taken for.
* `Plain.read`: what a text is taken for, or its defect.
-/

namespace Mustache.Yaml

/-- What a plain scalar is taken for: a value, or one of two signs that mappings give a meaning. -/
inductive Plain where
  | value (value : Value)
  /-- The key under which other mappings are merged into one. -/
  | mergeSign
  /-- The key of a default value. -/
  | defaultSign

namespace Plain

/-! ### Shapes -/

/-- A digit of a base, or an underscore. -/
def isDigitOf (base : Nat) (char : Char) : Bool :=
  char == '_' || (Text.hexValue? char).any fun digit => digit < base

/-- A nonempty text of digits of a base and underscores. -/
def areDigitsOf (base : Nat) (text : List Char) : Bool :=
  !text.isEmpty && text.all (isDigitOf base)

/-- A text of digits behind a digit that is no underscore. -/
def isWhole : List Char → Bool
  | [] => false
  | first :: rest => Text.isAsciiDigit first && rest.all (isDigitOf 10)

/-- A nonempty text of digits alone. -/
def areDigits (text : List Char) : Bool := !text.isEmpty && text.all Text.isAsciiDigit

/-- An exponent, whose sign has to be there or may be left out. -/
def isExponent (needsSign : Bool) : List Char → Bool
  | mark :: '-' :: digits => (mark == 'e' || mark == 'E') && areDigits digits
  | mark :: '+' :: digits => (mark == 'e' || mark == 'E') && areDigits digits
  | mark :: digits => (mark == 'e' || mark == 'E') && !needsSign && areDigits digits
  | [] => false

/-- The base of a whole number without its sign, and its digits; none if it is none. -/
def wholeParts? (isSigned : Bool) (text : List Char) : Option (Nat × List Char) :=
  match text with
  | '0' :: 'b' :: digits => if areDigitsOf 2 digits then some (2, digits) else none
  | '0' :: 'o' :: digits => if areDigitsOf 8 digits then some (8, digits) else none
  | '0' :: 'x' :: digits => if areDigitsOf 16 digits then some (16, digits) else none
  | digits =>
    if areDigitsOf 10 digits && (isSigned || isWhole digits) then some (10, digits) else none

/-- Whether a text without its sign has the shape of a number with a point or an exponent. -/
def isFloat (text : List Char) : Bool :=
  let (whole, rest) := text.span (isDigitOf 10)
  match rest with
  | '.' :: behind =>
    let (fraction, exponent) := behind.span (isDigitOf 10)
    if whole.isEmpty then !fraction.isEmpty && (exponent.isEmpty || isExponent true exponent)
    else isWhole whole && (exponent.isEmpty || isExponent false exponent)
  | exponent => isWhole whole && isExponent false exponent

/-! ### Numbers -/

/-- The number that digits of a base denote, read on from a number. -/
def digitsFrom (base value : Nat) : List Char → Nat
  | [] => value
  | char :: rest => digitsFrom base (value * base + (Text.hexValue? char).getD 0) rest

/-- A text without its underscores. -/
def withoutUnderscores (text : List Char) : List Char := text.filter (· != '_')

/-- The whole number of digits of a base, or the fault that there are none, or too many. -/
def readWhole (negative : Bool) (base : Nat) (text : List Char) : Except NumeralFault Value :=
  let digits := withoutUnderscores text
  let size : Int := digitsFrom base 0 digits
  if digits.isEmpty then .error (.notDigits base "")
  else if base = 10 && NumeralFault.digitLimit < digits.length then
    .error (.tooLong digits.length)
  else .ok (.ofInt (if negative then -size else size))

/-- The number of a text with a point or an exponent, or the fault that it has no digits. -/
def readFloat (negative : Bool) (text : List Char) : Except NumeralFault Value :=
  let written := withoutUnderscores text
  match Binary64.ofUnsigned? negative written with
  | some number => .ok (.float number)
  | none => .error (.notFloat (Text.lower (String.ofList written)))

/-- The number of a text, if it has the shape of one. -/
def readNumber? (text : List Char) : Option (Except NumeralFault Value) :=
  let (negative, unsigned) := Binary64.readSign text
  let isSigned := unsigned.length < text.length
  match wholeParts? isSigned unsigned with
  | some (base, digits) => some (readWhole negative base digits)
  | none => if isFloat unsigned then some (readFloat negative unsigned) else none

/-! ### Words -/

/-- What a word is taken for, if it is one that is no text. -/
def word? : String → Option Plain
  | "" | "~" | "null" | "Null" | "NULL" => some (value .null)
  | "true" | "True" | "TRUE" => some (value (.bool true))
  | "false" | "False" | "FALSE" => some (value (.bool false))
  | ".inf" | ".Inf" | ".INF" | "+.inf" | "+.Inf" | "+.INF" =>
    some (value (.float (.infinity false)))
  | "-.inf" | "-.Inf" | "-.INF" => some (value (.float (.infinity true)))
  | ".nan" | ".NaN" | ".NAN" => some (value (.float .notANumber))
  | "<<" => some mergeSign
  | "=" => some defaultSign
  | _ => none

/-- **What a plain scalar is taken for**: the meaning of a word, or a number, or a timestamp, or
else a text. -/
def read (text : String) : Except Defect Plain :=
  match word? text with
  | some plain => .ok plain
  | none =>
    match readNumber? text.toList, Timestamp.read? text.toList with
    | some number, _ => (number.map value).mapError .badNumeral
    | none, some stamp => stamp.map value
    | none, none => .ok (value (.text text))

end Plain

end Mustache.Yaml
