import Mustache.Number.Shortest
import Mustache.Text.Quoted
import Mustache.View.Value

/-!
**Writing JSON.**

A value is written on one line, with a blank after each comma and each colon. Quote marks,
backslashes and control characters are escaped; every other character stands for itself.

* `Json.print`: the JSON of a value made of scalars, lists and mappings with text keys.
-/

namespace Mustache.Json

/-- A character within a string. -/
def escapedChar (char : Char) : List Char :=
  match char with
  | '"' => ['\\', '"']
  | '\\' => ['\\', '\\']
  | '\n' => ['\\', 'n']
  | '\r' => ['\\', 'r']
  | '\t' => ['\\', 't']
  | '\x08' => ['\\', 'b']
  | '\x0c' => ['\\', 'f']
  | _ =>
    if char.toNat < 0x20 then '\\' :: 'u' :: Text.hexDigits 4 char.toNat else [char]

/-- A text as a string. -/
def printText (text : String) : String :=
  String.ofList ('"' :: text.toList.flatMap escapedChar ++ ['"'])

/-- A float, whose special values have words of their own. -/
def printFloat (number : Binary64) : String :=
  if number.isNaN then "NaN"
  else if number.isSpecial then (if number.isNegative then "-Infinity" else "Infinity")
  else number.text

mutual

/-- **The JSON of a value.** What is neither a scalar nor a list nor a mapping is written as no
value. -/
def print : Value → String
  | .bool flag => if flag then "true" else "false"
  | .int number _ => toString number
  | .float number => printFloat number
  | .text content => printText content
  | .items _ values => "[" ++ ", ".intercalate (printItems values) ++ "]"
  | .mapping entries => "\x7b" ++ ", ".intercalate (printEntries entries) ++ "\x7d"
  | _ => "null"

/-- The JSON of some values. -/
def printItems : List Value → List String
  | [] => []
  | value :: rest => print value :: printItems rest

/-- The JSON of some entries; keys are texts. -/
def printEntries : List (Value × Value) → List String
  | [] => []
  | (.text name, value) :: rest => (printText name ++ ": " ++ print value) :: printEntries rest
  | (_, value) :: rest => ("\"\": " ++ print value) :: printEntries rest

end

end Mustache.Json
