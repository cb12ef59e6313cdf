import Mustache.Text.Quoted

/-!
**Numerals.**

A numeral is a text that denotes a number. A text may look like one and denote none: its digits may
be no digits of the base, there may be none at all, or there may be more than are read.

* `NumeralFault`: why a text is no numeral.
* `NumeralFault.message`: its report.
-/

namespace Mustache

/-- Why a text is no numeral. -/
inductive NumeralFault where
  /-- The text does not consist of digits of the base. -/
  | notDigits (base : Nat) (text : String)
  /-- There are more decimal digits than are read. -/
  | tooLong (count : Nat)
  /-- The text has a point or an exponent but no digits. -/
  | notFloat (text : String)
  deriving DecidableEq, Repr

namespace NumeralFault

/-- The largest number of decimal digits that are read. -/
def digitLimit : Nat := 4300

/-- The report of a text that is no numeral. -/
def message : NumeralFault → String
  | notDigits base text =>
    "invalid literal for int() with base " ++ toString base ++ ": " ++
      String.ofList ((Text.quotedList text.toList).take 200)
  | tooLong count =>
    "Exceeds the limit (" ++ toString digitLimit ++
      " digits) for integer string conversion: value has " ++ toString count ++
      " digits; use sys.set_int_max_str_digits() to increase the limit"
  | notFloat text => "could not convert string to float: " ++ Text.quoted text

end NumeralFault

end Mustache
