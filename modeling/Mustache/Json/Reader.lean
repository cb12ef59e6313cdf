import Mustache.Number.Numeral
import Mustache.Text.Digit
import Mustache.View.Value

/-!
**Reading JSON.**

The reader takes standard JSON with three further numbers, `NaN`, `Infinity` and `-Infinity`. A
number with a fraction or an exponent is a float, any other a whole number of at most 4300 digits.
Of two members with one name the later value counts, in the place of the earlier.

* `Json.read?`: the value a text denotes; none if it is not JSON.
-/

namespace Mustache.Json

/-- The blanks of JSON. -/
def isSpace (char : Char) : Bool := char == ' ' || char == '\t' || char == '\n' || char == '\r'

/-- A text without the blanks at its start. -/
def skipSpace (text : List Char) : List Char := text.dropWhile isSpace

/-- What follows a word at the start of a text. -/
def after? (word : String) (text : List Char) : Option (List Char) :=
  if word.toList.isPrefixOf text then some (text.drop word.length) else none

/-! ### Strings -/

/-- The number that four hexadecimal digits denote. -/
def fourHex? : List Char → Option Nat
  | [first, second, third, fourth] => do
    let a ← Text.hexValue? first
    let b ← Text.hexValue? second
    let c ← Text.hexValue? third
    let d ← Text.hexValue? fourth
    some (((a * 16 + b) * 16 + c) * 16 + d)
  | _ => none

/-- The character of an escape of one letter. -/
def letterEscape? : Char → Option Char
  | '"' => some '"'
  | '\\' => some '\\'
  | '/' => some '/'
  | 'b' => some '\x08'
  | 'f' => some '\x0c'
  | 'n' => some '\n'
  | 'r' => some '\r'
  | 't' => some '\t'
  | _ => none

/-- The second half of a pair of surrogates at the start of a text. -/
def lowSurrogate? : List Char → Option (Nat × List Char)
  | '\\' :: 'u' :: rest =>
    match fourHex? (rest.take 4) with
    | some code =>
      if 0xDC00 ≤ code ∧ code < 0xE000 then some (code - 0xDC00, rest.drop 4) else none
    | none => none
  | _ => none

/-- The character of an escape by number, whose digits a text starts with, and the rest. Two
surrogates make one character; one alone is replaced. -/
def readCode? (text : List Char) : Option (Char × List Char) :=
  match fourHex? (text.take 4) with
  | none => none
  | some code =>
    let rest := text.drop 4
    if 0xD800 ≤ code ∧ code < 0xDC00 then
      match lowSurrogate? rest with
      | some (low, others) =>
        some (Char.ofNat (0x10000 + (code - 0xD800) * 0x400 + low), others)
      | none => some ('\ufffd', rest)
    else if 0xDC00 ≤ code ∧ code < 0xE000 then some ('\ufffd', rest)
    else some (Char.ofNat code, rest)

/-- The characters of a string up to its closing quote mark, and the rest. Every step takes at
least one character of the text, so as many steps as characters are enough. -/
def readString? : Nat → List Char → Option (List Char × List Char)
  | 0, _ => none
  | _ + 1, [] => none
  | _ + 1, '"' :: rest => some ([], rest)
  | steps + 1, '\\' :: 'u' :: rest => do
    let (char, others) ← readCode? rest
    let (chars, remaining) ← readString? steps others
    some (char :: chars, remaining)
  | steps + 1, '\\' :: letter :: rest => do
    let char ← letterEscape? letter
    let (chars, remaining) ← readString? steps rest
    some (char :: chars, remaining)
  | steps + 1, char :: rest =>
    if char.toNat < 0x20 ∨ char = '\\' then none
    else do
      let (chars, remaining) ← readString? steps rest
      some (char :: chars, remaining)

/-! ### Numbers -/

/-- The digits a text starts with, and the rest. -/
def spanDigits (text : List Char) : List Char × List Char := text.span Text.isAsciiDigit

/-- The number some digits denote. -/
def digitsValue (digits : List Char) : Nat := (Text.readDecimalFrom? 0 digits).getD 0

/-- The digits after a point at the start of a text; none without a digit after the point. -/
def readFraction (text : List Char) : List Char × List Char :=
  match text with
  | '.' :: rest =>
    let (digits, others) := spanDigits rest
    if digits.isEmpty then ([], text) else (digits, others)
  | _ => ([], text)

/-- The exponent at the start of a text, if there is one. -/
def readExponent (text : List Char) : Option Int × List Char :=
  match text with
  | mark :: rest =>
    if mark == 'e' || mark == 'E' then
      let (negative, unsigned) := match rest with
        | '-' :: others => (true, others)
        | '+' :: others => (false, others)
        | others => (false, others)
      let (digits, others) := spanDigits unsigned
      if digits.isEmpty then (none, text)
      else
        let size : Int := digitsValue digits
        (some (if negative then -size else size), others)
    else (none, text)
  | [] => (none, text)

/-- A number without its sign at the start of a text, and the rest. -/
def readUnsigned? (negative : Bool) (text : List Char) : Option (Value × List Char) :=
  let (whole, afterWhole) := match text with
    | '0' :: rest => (['0'], rest)
    | _ => spanDigits text
  if whole.isEmpty then none
  else
    let (fraction, afterFraction) := readFraction afterWhole
    let (exponent, rest) := readExponent afterFraction
    if fraction.isEmpty && exponent.isNone then
      let size : Int := digitsValue whole
      if NumeralFault.digitLimit < whole.length then none
      else some (.ofInt (if negative then -size else size), rest)
    else
      let power := exponent.getD 0 - fraction.length
      some (.float (.ofDecimal negative (digitsValue (whole ++ fraction)) power), rest)

/-! ### Values -/

mutual

/-- A value at the start of a text, and the rest, found in at most so many steps. -/
def readValue? : Nat → List Char → Option (Value × List Char)
  | 0, _ => none
  | steps + 1, text =>
    match text with
    | '"' :: rest =>
      (readString? (rest.length + 1) rest).map fun (chars, others) =>
        (.text (String.ofList chars), others)
    | '[' :: rest =>
      match skipSpace rest with
      | ']' :: others => some (.list [], others)
      | others => do
        let (values, remaining) ← readItems? steps others
        some (.list values, remaining)
    | '\x7b' :: rest =>
      match skipSpace rest with
      | '\x7d' :: others => some (.mapping [], others)
      | others => do
        let (entries, remaining) ← readMembers? steps others
        some (.mappingOf entries, remaining)
    | 'n' :: _ => (after? "null" text).map (.null, ·)
    | 't' :: _ => (after? "true" text).map (.bool true, ·)
    | 'f' :: _ => (after? "false" text).map (.bool false, ·)
    | 'N' :: _ => (after? "NaN" text).map (.float .notANumber, ·)
    | 'I' :: _ => (after? "Infinity" text).map (.float (.infinity false), ·)
    | '-' :: 'I' :: _ => (after? "-Infinity" text).map (.float (.infinity true), ·)
    | '-' :: rest => readUnsigned? true rest
    | _ => readUnsigned? false text

/-- The items of an array up to its closing bracket, and the rest. -/
def readItems? : Nat → List Char → Option (List Value × List Char)
  | 0, _ => none
  | steps + 1, text => do
    let (value, rest) ← readValue? steps text
    match skipSpace rest with
    | ',' :: others =>
      let (values, remaining) ← readItems? steps (skipSpace others)
      some (value :: values, remaining)
    | ']' :: others => some ([value], others)
    | _ => none

/-- The members of an object up to its closing brace, and the rest. -/
def readMembers? : Nat → List Char → Option (List (Value × Value) × List Char)
  | 0, _ => none
  | steps + 1, text =>
    match text with
    | '"' :: rest => do
      let (name, afterName) ← readString? (rest.length + 1) rest
      let afterColon ← match skipSpace afterName with
        | ':' :: others => some (skipSpace others)
        | _ => none
      let (value, afterValue) ← readValue? steps afterColon
      let entry := (.text (String.ofList name), value)
      match skipSpace afterValue with
      | ',' :: others =>
        let (entries, remaining) ← readMembers? steps (skipSpace others)
        some (entry :: entries, remaining)
      | '\x7d' :: others => some ([entry], others)
      | _ => none
    | _ => none

end

/-- **The value a text denotes**; none if it is not JSON. -/
def read? (text : String) : Option Value :=
  match readValue? (text.length + 1) (skipSpace text.toList) with
  | some (value, rest) => if (skipSpace rest).isEmpty then some value else none
  | none => none

end Mustache.Json
