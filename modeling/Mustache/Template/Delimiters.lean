import Mustache.Template.SyntaxFault
import Mustache.Text.Blank
import Mustache.View.Display

/-!
**Delimiters.**

Tags stand between an opening and a closing delimiter. Neither is empty, so that reading a tag
always makes progress.

* `Delimiters`: a pair of delimiters.
* `Delimiters.ofText?`: the pair that the first two words of a text make.
* `Delimiters.ofValue?`: the pair that a value describes.
* `Delimiters.read`: the same, or the fault that the value is no pair.
-/

namespace Mustache

/-- An opening and a closing delimiter, neither empty. -/
structure Delimiters where
  opening : String
  closing : String
  opening_ne : opening ≠ ""
  closing_ne : closing ≠ ""
  deriving DecidableEq, Repr

namespace Delimiters

/-- The delimiters in force where nothing else is said: two braces on either side. -/
def standard : Delimiters where
  opening := "\x7b\x7b"
  closing := "\x7d\x7d"
  opening_ne := by decide
  closing_ne := by decide

instance : Inhabited Delimiters := ⟨standard⟩

/-- Two texts as delimiters, unless one of them is empty. -/
def ofPair? (opening closing : String) : Option Delimiters :=
  if nonempty : opening ≠ "" ∧ closing ≠ "" then
    some ⟨opening, closing, nonempty.1, nonempty.2⟩
  else none

/-- The characters before the first blank. -/
def firstWord (text : List Char) : List Char := text.takeWhile fun char => !Text.isBlank char

/-- What follows the first word and the blanks after it. -/
def afterFirstWord (text : List Char) : List Char :=
  Text.afterBlanks (text.dropWhile fun char => !Text.isBlank char)

/-- **The pair that the first two words of a text make.** A text that starts with a blank has an
empty first word, and one that ends after its first word or the blanks behind it has an empty
second word; neither makes a pair. -/
def ofText? (text : String) : Option Delimiters :=
  ofPair? (String.ofList (firstWord text.toList))
    (String.ofList (firstWord (afterFirstWord text.toList)))

/-- **The pair that a value describes**: the first two words of a text, or a list or tuple of two
nonempty texts. -/
def ofValue? : Value → Option Delimiters
  | .text content => ofText? content
  | .items .list [.text opening, .text closing] => ofPair? opening closing
  | .items .tuple [.text opening, .text closing] => ofPair? opening closing
  | _ => none

/-- A pair as a value. -/
def toValue (delimiters : Delimiters) : Value :=
  .tuple [.text delimiters.opening, .text delimiters.closing]

/-- The pair that a value describes, or the fault that it describes none. -/
def read (tags : Value) (template : Option String) (position : Int) :
    Except SyntaxFault Delimiters :=
  match ofValue? tags with
  | some delimiters => .ok delimiters
  | none => .error (.locate (.invalidTags tags.shown) position template)

end Delimiters

end Mustache
