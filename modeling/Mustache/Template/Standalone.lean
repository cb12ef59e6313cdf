import Mustache.Template.Token
import Mustache.Text.Blank

/-!
**Standalone lines.**

A line that holds tags but neither a variable nor any text that is not blank leaves no trace: the
blanks and the line feed around its tags are stripped. Lines are judged while the tokens come in:
the places of the blanks of the line at hand are kept until it ends, and only then is it known
whether they are stripped.

* `LineMarks`: what is known of the line at hand.
* `Stripping`: the places stripped so far, and the line at hand.
* `Token.strippedIndexes`: the places of the stripped tokens.
* `Token.keep`: the tokens that are left without some places.
-/

namespace Mustache

namespace Token

/-- The text token of a line feed. -/
def isNewline : Token → Bool
  | text span => span.value == "\n"
  | _ => false

/-- A text token that is not blank. -/
def isInk : Token → Bool
  | text span => !span.value.toList.all Text.isBlank
  | _ => false

end Token

/-- What is known of a line while its tokens come in: the places of its blanks, the latest first;
whether it has a tag; and whether it has a variable or text that is not blank. -/
structure LineMarks where
  blanks : List Nat := []
  hasTag : Bool := false
  hasInk : Bool := false
  deriving DecidableEq, Repr

namespace LineMarks

/-- A line after one more token, which stands at a place. -/
def after (line : LineMarks) (place : Nat) (token : Token) : LineMarks :=
  if token.isInk then { line with hasInk := true }
  else if token.isText then { line with blanks := place :: line.blanks }
  else { line with hasTag := true, hasInk := line.hasInk || token.isInterpolation }

/-- The places that are stripped when the line ends. -/
def stripped (line : LineMarks) : List Nat :=
  if line.hasTag && !line.hasInk then line.blanks else []

end LineMarks

/-- The places stripped on the lines that have ended, the latest first, and the line at hand. -/
structure Stripping where
  places : List Nat := []
  line : LineMarks := {}
  deriving DecidableEq, Repr

namespace Stripping

/-- The line at hand ends. -/
def endLine (stripping : Stripping) : Stripping :=
  ⟨stripping.line.stripped ++ stripping.places, {}⟩

/-- The stripping after one more token, which stands at a place; a line feed ends the line. -/
def after (stripping : Stripping) (place : Nat) (token : Token) : Stripping :=
  let next : Stripping := ⟨stripping.places, stripping.line.after place token⟩
  if token.isNewline then next.endLine else next

/-- The stripping after some tokens, the first of which stands at a place. -/
def run (stripping : Stripping) (place : Nat) : List Token → Stripping
  | [] => stripping
  | token :: rest => run (stripping.after place token) (place + 1) rest

/-- All stripped places in ascending order, once there are no more tokens. -/
def result (stripping : Stripping) : List Nat := stripping.endLine.places.reverse

end Stripping

namespace Token

/-- **The places of the stripped tokens**, in ascending order. -/
def strippedIndexes (tokens : List Token) : List Nat := (Stripping.run {} 0 tokens).result

/-- **The tokens that are left** when those at some places are taken out. -/
def keep (stripped : List Nat) (tokens : List Token) : List Token :=
  (tokens.zipIdx.filter fun entry => !stripped.contains entry.2).map Prod.fst

end Token

end Mustache
