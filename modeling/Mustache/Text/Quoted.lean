import Mustache.Text.Printable

/-!
**Quoted texts.**

A quoted text stands between two quote marks on one line: the mark and the backslash are escaped by
a backslash, tab, line feed and carriage return have letters of their own, and every other
character that is not printable is written by its code point. The mark is `'`, or `"` where the
text holds `'` and no `"`.

* `quoted`: a text, quoted.
* `quotedBytes`: bytes, quoted as the ASCII characters they stand for.
-/

namespace Mustache.Text

/-- A digit below sixteen, in lower case. -/
def hexDigit (digit : Nat) : Char :=
  if digit < 10 then Char.ofNat (48 + digit) else Char.ofNat (87 + digit)

/-- The last `width` hexadecimal digits of a number. -/
def hexDigits : Nat → Nat → List Char
  | 0, _ => []
  | width + 1, number => hexDigits width (number / 16) ++ [hexDigit (number % 16)]

/-- The quote mark of a text. -/
def quoteMark (text : List Char) : Char :=
  if text.contains '\'' && !text.contains '"' then '"' else '\''

/-- A code point as an escape of two, four or eight hexadecimal digits. -/
def codeEscape (code : Nat) : List Char :=
  if code < 0x100 then '\\' :: 'x' :: hexDigits 2 code
  else if code < 0x10000 then '\\' :: 'u' :: hexDigits 4 code
  else '\\' :: 'U' :: hexDigits 8 code

/-- One character between quote marks. -/
def quotedChar (mark char : Char) : List Char :=
  if char == mark || char == '\\' then ['\\', char]
  else if char == '\t' then ['\\', 't']
  else if char == '\n' then ['\\', 'n']
  else if char == '\r' then ['\\', 'r']
  else if isPrintable char then [char]
  else codeEscape char.toNat

/-- A text between quote marks. -/
def quotedList (text : List Char) : List Char :=
  let mark := quoteMark text
  mark :: text.flatMap (quotedChar mark) ++ [mark]

/-- A text between quote marks. -/
def quoted (text : String) : String := String.ofList (quotedList text.toList)

/-- One byte between quote marks: printable ASCII as it is, all else escaped. -/
def quotedByte (mark : Char) (byte : UInt8) : List Char :=
  if byte < 0x7F then quotedChar mark (Char.ofNat byte.toNat) else codeEscape byte.toNat

/-- Bytes between quote marks. -/
def quotedBytes (bytes : List UInt8) : String :=
  let mark := quoteMark (bytes.map fun byte => Char.ofNat byte.toNat)
  String.ofList (mark :: bytes.flatMap (quotedByte mark) ++ [mark])

end Mustache.Text
