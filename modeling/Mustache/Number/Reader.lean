import Mustache.Number.Binary64
import Mustache.Text.Digit

/-!
**Reading a floating-point number.**

* `Binary64.ofText?`: the number of a text: a sign, digits with a point, and an exponent; or the
  words for infinity and for what is no number.
-/

namespace Mustache.Binary64

/-- A sign at the start of a text: whether it is a minus, and what follows it. -/
def readSign : List Char → Bool × List Char
  | '-' :: rest => (true, rest)
  | '+' :: rest => (false, rest)
  | text => (false, text)

/-- The ASCII digits a text starts with, and the rest. -/
def readDigits (text : List Char) : List Char × List Char :=
  text.span Text.isAsciiDigit

/-- The number some digits denote. -/
def digitsNumber (digits : List Char) : Nat := (Text.readDecimalFrom? 0 digits).getD 0

/-- An exponent that a text consists of; zero for the empty text. -/
def readExponent? (text : List Char) : Option Int :=
  match text with
  | [] => some 0
  | mark :: rest =>
    let (negative, unsigned) := readSign rest
    let (digits, remaining) := readDigits unsigned
    if (mark == 'e' || mark == 'E') && !digits.isEmpty && remaining.isEmpty then
      some (if negative then -(digitsNumber digits : Int) else digitsNumber digits)
    else none

/-- The number of a text without a sign. -/
def ofUnsigned? (negative : Bool) (text : List Char) : Option Binary64 :=
  let (whole, afterWhole) := readDigits text
  let (fraction, rest) := match afterWhole with
    | '.' :: others => readDigits others
    | others => ([], others)
  if whole.isEmpty && fraction.isEmpty then none
  else
    (readExponent? rest).map fun exponent =>
      ofDecimal negative (digitsNumber (whole ++ fraction)) (exponent - fraction.length)

/-- **The number of a text.** -/
def ofText? (text : String) : Option Binary64 :=
  let (negative, unsigned) := readSign text.toList
  match String.ofList unsigned with
  | "inf" => some (infinity negative)
  | "nan" => some notANumber
  | _ => ofUnsigned? negative unsigned

end Mustache.Binary64
