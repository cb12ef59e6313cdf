import Mustache.Text.Blank

/-!
**Patterns of the template language.**

A pattern matches at the start of a text or not at all; runs of blanks in it are as long as the rest
of the pattern allows.

* `Pattern.matchLength?`: how much of a text a pattern matches.
* `Pattern.scan`: a text split after its match, which is empty if there is none.
* `Pattern.scanUntil`: a text split before the first match.
* `scan_append`, `scanUntil_append`: the two parts make up the text.
-/

namespace Mustache

/-- A pattern of the template language. -/
inductive Pattern where
  /-- Any number of blanks. -/
  | blanks
  /-- At least one blank. -/
  | blankRun
  /-- One character that is not blank. -/
  | nonBlank
  /-- A character that tells the sort of a tag. -/
  | sigil
  /-- A text. -/
  | literal (content : List Char)
  /-- A text, then blanks. -/
  | opening (content : List Char)
  /-- Blanks, then a text. -/
  | closing (content : List Char)
  deriving DecidableEq, Repr

namespace Pattern

/-- The characters that tell the sort of a tag. -/
def sigils : List Char := ['#', '^', '/', '>', '\x7b', '&', '=', '!']

/-- The number of blanks a text starts with. -/
def blankLength (text : List Char) : Nat := (Text.blankRun text).length

/-- The number of blanks before a content, as many as possible: if the content stands behind several
numbers of leading blanks, the largest of them. -/
def blanksBefore? (content : List Char) : List Char → Option Nat
  | [] => if content.isEmpty then some 0 else none
  | char :: rest =>
    match if Text.isBlank char then blanksBefore? content rest else none with
    | some count => some (count + 1)
    | none => if content.isPrefixOf (char :: rest) then some 0 else none

/-- **How much of a text a pattern matches.** -/
def matchLength? (text : List Char) : Pattern → Option Nat
  | blanks => some (blankLength text)
  | blankRun => if blankLength text = 0 then none else some (blankLength text)
  | nonBlank => match text with
    | char :: _ => if Text.isBlank char then none else some 1
    | [] => none
  | sigil => match text with
    | char :: _ => if sigils.contains char then some 1 else none
    | [] => none
  | literal content => if content.isPrefixOf text then some content.length else none
  | opening content =>
    if content.isPrefixOf text then
      some (content.length + blankLength (text.drop content.length))
    else none
  | closing content => (blanksBefore? content text).map (· + content.length)

/-- The pattern matches at the start of a text. -/
def hits (pattern : Pattern) (text : List Char) : Bool := (pattern.matchLength? text).isSome

/-- **A text split after its match**: the match, or nothing if there is none, and the rest. -/
def scan (pattern : Pattern) (text : List Char) : List Char × List Char :=
  text.splitAt ((pattern.matchLength? text).getD 0)

/-- **A text split before the first match**: what comes before it, and the rest; all and nothing if
there is none. -/
def scanUntil (pattern : Pattern) : List Char → List Char × List Char
  | [] => ([], [])
  | char :: rest =>
    if pattern.hits (char :: rest) then ([], char :: rest)
    else
      let (skipped, remaining) := scanUntil pattern rest
      (char :: skipped, remaining)

/-! ### Nothing is lost -/

/-- The match and the rest make up the text. -/
theorem scan_append (pattern : Pattern) (text : List Char) :
    (pattern.scan text).1 ++ (pattern.scan text).2 = text := by
  simp [scan, List.splitAt_eq]

/-- What is skipped and the rest make up the text. -/
theorem scanUntil_append (pattern : Pattern) (text : List Char) :
    (pattern.scanUntil text).1 ++ (pattern.scanUntil text).2 = text := by
  induction text with
  | nil => rfl
  | cons char rest hypothesis =>
    unfold scanUntil
    by_cases hit : pattern.hits (char :: rest) = true
    · rw [if_pos hit]
      rfl
    · rw [if_neg hit]
      simp [hypothesis]

theorem scan_length (pattern : Pattern) (text : List Char) :
    (pattern.scan text).1.length + (pattern.scan text).2.length = text.length := by
  rw [← List.length_append, scan_append]

theorem scanUntil_length (pattern : Pattern) (text : List Char) :
    (pattern.scanUntil text).1.length + (pattern.scanUntil text).2.length = text.length := by
  rw [← List.length_append, scanUntil_append]

end Pattern

end Mustache
