/-!
**Blank characters.**

The template language separates words by blanks: the ASCII blanks and separators, and the spaces
and line marks of the wider character set. Zero-width characters are not blank.

* `isBlank`: membership of a character.
* `strip`: a text without the blanks at its two ends.
* `blankRun`, `afterBlanks`: the blanks a text starts with, and what follows them.
-/

namespace Mustache.Text

/-- A blank character. The definition is sealed, so that no proof looks at code points unasked. -/
@[irreducible] def isBlank (char : Char) : Bool :=
  let code := char.toNat
  (9 ≤ code && code ≤ 13) || (28 ≤ code && code ≤ 32) || code == 0x85 || code == 0xA0 ||
    code == 0x1680 || (0x2000 ≤ code && code ≤ 0x200A) || code == 0x2028 || code == 0x2029 ||
    code == 0x202F || code == 0x205F || code == 0x3000

/-- The blanks a text starts with. -/
def blankRun (text : List Char) : List Char := text.takeWhile isBlank

/-- What follows the blanks a text starts with. -/
def afterBlanks (text : List Char) : List Char := text.dropWhile isBlank

/-- The leading blanks and the rest make up the text. -/
theorem blankRun_append_afterBlanks (text : List Char) :
    blankRun text ++ afterBlanks text = text :=
  List.takeWhile_append_dropWhile

/-- A text without the blanks at its start and at its end. -/
def strip (text : String) : String :=
  String.ofList (afterBlanks (afterBlanks text.toList).reverse).reverse

/-- A text without the blanks at its end. -/
def stripEnd (text : String) : String :=
  String.ofList (afterBlanks text.toList.reverse).reverse

end Mustache.Text
