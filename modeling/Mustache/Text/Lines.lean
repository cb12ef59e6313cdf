/-!
**Lines.**

A line ends at a line feed. Texts read from outside may end lines by a carriage return, alone or
before a line feed; `unifyNewlines` turns these into line feeds.

* `splitOn`: a text cut at each occurrence of a character.
* `splitLines`, `joinLines`: a text as its lines, without their line feeds, and back.
* `Place`: a line and a column, both counted from one.
* `place`: the place of an offset in a text.
-/

namespace Mustache.Text

/-- A text cut at each occurrence of a character, which is left out; the text without it is one
part. -/
def splitOn (mark : Char) : List Char → List (List Char)
  | [] => [[]]
  | char :: rest =>
    if char = mark then [] :: splitOn mark rest
    else
      match splitOn mark rest with
      | part :: parts => (char :: part) :: parts
      | [] => [[char]]

/-- The lines of a text, without their line feeds. -/
def splitLines (text : List Char) : List (List Char) := splitOn '\n' text

/-- Lines put together, a line feed between each two. -/
def joinLines (lines : List (List Char)) : List Char := ['\n'].intercalate lines

/-- Every line end of a text written as a line feed. -/
def unifyNewlines : List Char → List Char
  | [] => []
  | '\r' :: '\n' :: rest => '\n' :: unifyNewlines rest
  | char :: rest => (if char = '\r' then '\n' else char) :: unifyNewlines rest

/-- A line and a column of a text, both counted from one. -/
structure Place where
  line : Int
  column : Int
  deriving DecidableEq, Repr

/-- The characters of a text before an offset; a negative offset counts from the end. -/
def before (text : List Char) (offset : Int) : List Char :=
  if 0 ≤ offset then text.take offset.toNat else text.take (text.length - offset.natAbs)

/-- The number of characters after the last line feed. -/
def lastLineLength (text : List Char) : Nat :=
  (text.reverse.takeWhile (· != '\n')).length

/-- **The place of an offset**: one line more than there are line feeds before it, and the column
counted from the character after the last of them. -/
def place (text : List Char) (offset : Int) : Place :=
  let head := before text offset
  let lineStart := head.length - lastLineLength head
  ⟨(head.count '\n' : Nat) + 1, offset - lineStart + 1⟩

end Mustache.Text
