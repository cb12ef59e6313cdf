/-!
**Digits.**

A decimal digit is one of ten consecutive characters that start at a zero; every script brings its
own zero. Superscript, circled and similar signs are digits too, but not decimal ones: they make no
number.

* `decimalValue?`: the value of a decimal digit.
* `isDigit`: a digit of either sort.
* `readDecimal?`: the number a text of decimal digits denotes.
* `isAsciiDigit`, `hexValue?`: the decimal and the hexadecimal digits of ASCII.
-/

namespace Mustache.Text

/-- The zeros of the scripts, each followed by its nine other digits. -/
def zeros : List Nat := [
  48, 1632, 1776, 1984, 2406, 2534, 2662, 2790, 2918, 3046, 3174, 3302, 3430, 3558, 3664, 3792,
  3872, 4160, 4240, 6112, 6160, 6470, 6608, 6784, 6800, 6992, 7088, 7232, 7248, 42528, 43216,
  43264, 43472, 43504, 43600, 44016, 65296, 66720, 68912, 69734, 69872, 69942, 70096, 70384,
  70736, 70864, 71248, 71360, 71472, 71904, 72016, 72784, 73040, 73120, 92768, 92864, 93008,
  120782, 120792, 120802, 120812, 120822, 123200, 123632, 125264, 130032]

/-- The ranges of the digits that are not decimal, both ends included. -/
def signDigits : List (Nat × Nat) := [
  (178, 179), (185, 185), (4969, 4977), (6618, 6618), (8304, 8304), (8308, 8313), (8320, 8329),
  (9312, 9320), (9332, 9340), (9352, 9360), (9450, 9450), (9461, 9469), (9471, 9471),
  (10102, 10110), (10112, 10120), (10122, 10130), (68160, 68163), (69216, 69224), (69714, 69722),
  (127232, 127242)]

/-- The value of a decimal digit. -/
def decimalValue? (char : Char) : Option Nat :=
  let code := char.toNat
  if code < 128 then if 48 ≤ code ∧ code ≤ 57 then some (code - 48) else none
  else (zeros.find? fun first => first ≤ code && code < first + 10).map (code - ·)

/-- A digit, decimal or not. -/
def isDigit (char : Char) : Bool :=
  (decimalValue? char).isSome ||
    signDigits.any fun (low, high) => low ≤ char.toNat && char.toNat ≤ high

/-- The number that decimal digits denote, most significant first, read on from a number. -/
def readDecimalFrom? (value : Nat) : List Char → Option Nat
  | [] => some value
  | char :: rest =>
    match decimalValue? char with
    | some digit => readDecimalFrom? (value * 10 + digit) rest
    | none => none

/-- The number that a nonempty text of decimal digits denotes. -/
def readDecimal? : List Char → Option Nat
  | [] => none
  | digits => readDecimalFrom? 0 digits

/-- The value of a hexadecimal digit. -/
def hexValue? (char : Char) : Option Nat :=
  if '0' ≤ char ∧ char ≤ '9' then some (char.toNat - 48)
  else if 'a' ≤ char ∧ char ≤ 'f' then some (char.toNat - 87)
  else if 'A' ≤ char ∧ char ≤ 'F' then some (char.toNat - 55)
  else none

/-- A decimal digit of ASCII. -/
def isAsciiDigit (char : Char) : Bool := '0' ≤ char && char ≤ '9'

/-- A nonempty text of digits of either sort. -/
def allDigits (text : List Char) : Bool := !text.isEmpty && text.all isDigit

end Mustache.Text
