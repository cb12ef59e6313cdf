import Mustache.Template.Pattern

/-!
**A scanner.**

A scanner walks a text from its start to its end and never back.

* `Scanner.scan`: passes over a match at the place of the scanner.
* `Scanner.scanUntil`: passes over everything before the next match.
-/

namespace Mustache

/-- A place in a text: the characters passed, and those that remain. -/
structure Scanner where
  passed : List Char
  remaining : List Char
  deriving DecidableEq, Repr

namespace Scanner

/-- A scanner at the start of a text. -/
def ofString (text : String) : Scanner := ⟨[], text.toList⟩

/-- The whole text. -/
def text (scanner : Scanner) : String := String.ofList (scanner.passed ++ scanner.remaining)

/-- The number of characters passed. -/
def position (scanner : Scanner) : Nat := scanner.passed.length

/-- The text that remains. -/
def tail (scanner : Scanner) : String := String.ofList scanner.remaining

/-- Nothing remains. -/
def atEnd (scanner : Scanner) : Bool := scanner.remaining.isEmpty

/-- A scanner after passing over the first part of what remains, and that part. -/
def pass (scanner : Scanner) (parts : List Char × List Char) : String × Scanner :=
  (String.ofList parts.1, ⟨scanner.passed ++ parts.1, parts.2⟩)

/-- Passes over a match at this place; without a match the scanner stays. -/
def scan (scanner : Scanner) (pattern : Pattern) : String × Scanner :=
  scanner.pass (pattern.scan scanner.remaining)

/-- Passes over everything before the next match, to the end if there is none. -/
def scanUntil (scanner : Scanner) (pattern : Pattern) : String × Scanner :=
  scanner.pass (pattern.scanUntil scanner.remaining)

end Scanner

end Mustache
