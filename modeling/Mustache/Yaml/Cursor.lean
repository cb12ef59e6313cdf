/-!
**A place in a YAML text.**

What a line of YAML means depends on how far it is indented, so reading keeps track of lines and
columns. A line ends at a line feed or a carriage return, or at both together. Three more characters
end a line of content without starting a new line to count columns in.

* `isBreak`, `isWhite`, `isSpacing`, `endsWord`: line ends, blanks, both, and the end of a word.
* `Cursor`: what remains to be read, and its place.
* `Cursor.span`: the characters of a sort at a cursor, and what follows them.
* `Cursor.lineEnd?`: the line end at a cursor, as the character it counts as.
* `isAllowed`: the characters a text may hold.
-/

namespace Mustache.Yaml

/-! ### Characters -/

/-- A character that ends a line of content. -/
def isBreak (char : Char) : Bool :=
  char == '\n' || char == '\r' || char == '\x85' || char == '\u2028' || char == '\u2029'

/-- A space or a tab. -/
def isWhite (char : Char) : Bool := char == ' ' || char == '\t'

/-- A space, a tab or a line end. -/
def isSpacing (char : Char) : Bool := isWhite char || isBreak char

/-- Whether a word ends before a text. -/
def endsWord : List Char → Bool
  | [] => true
  | char :: _ => isSpacing char

/-- Whether a line of content ends before a text. -/
def endsLine : List Char → Bool
  | [] => true
  | char :: _ => isBreak char

/-- A character that a text may hold: no control characters but tabs and line ends. -/
def isAllowed (char : Char) : Bool :=
  let code := char.toNat
  char == '\t' || char == '\n' || char == '\r' || (0x20 ≤ code && code ≤ 0x7E) || code == 0x85 ||
    (0xA0 ≤ code && code ≤ 0xFFFD) || 0x10000 ≤ code

/-- Whether a text starts with three characters that start or end a document. -/
def startsWithMark : List Char → Bool
  | '-' :: '-' :: '-' :: rest => endsWord rest
  | '.' :: '.' :: '.' :: rest => endsWord rest
  | _ => false

/-! ### Cursors -/

/-- What remains to be read, the line and the column of its first character, and the number of
characters read before. -/
structure Cursor where
  text : List Char
  line : Nat
  column : Nat
  offset : Nat

namespace Cursor

/-- The start of a text. A byte order mark there is no part of it. -/
def start : List Char → Cursor
  | '\ufeff' :: rest => ⟨rest, 0, 0, 1⟩
  | text => ⟨text, 0, 0, 0⟩

/-- Whether a new line starts between a character and what follows it. -/
def startsLine (char : Char) (rest : List Char) : Bool :=
  char == '\n' || (char == '\r' && rest.head? != some '\n')

/-- The cursor one character further on. A byte order mark takes no column. -/
def next (cursor : Cursor) : Cursor :=
  match cursor.text with
  | [] => cursor
  | char :: rest =>
    if startsLine char rest then ⟨rest, cursor.line + 1, 0, cursor.offset + 1⟩
    else
      let width := if char == '\ufeff' then 0 else 1
      ⟨rest, cursor.line, cursor.column + width, cursor.offset + 1⟩

/-- The cursor some characters further on. -/
def skip : Nat → Cursor → Cursor
  | 0, cursor => cursor
  | count + 1, cursor => skip count cursor.next

/-- **The characters of a sort at a cursor**, and the cursor behind them. -/
def span (cursor : Cursor) (belongs : Char → Bool) : List Char × Cursor :=
  let run := cursor.text.takeWhile belongs
  (run, cursor.skip run.length)

/-- The cursor behind the spaces at a cursor. -/
def skipSpaces (cursor : Cursor) : Cursor := (cursor.span (· == ' ')).2

/-- The cursor at the end of a line of content. -/
def skipLine (cursor : Cursor) : Cursor := (cursor.span fun char => !isBreak char).2

/-- **The line end at a cursor**, as the character it counts as, and the cursor behind it. All line
ends but two count as line feeds. -/
def lineEnd? (cursor : Cursor) : Option (Char × Cursor) :=
  match cursor.text with
  | [] => none
  | '\r' :: '\n' :: _ => some ('\n', cursor.skip 2)
  | char :: _ =>
    if !isBreak char then none
    else if char == '\u2028' || char == '\u2029' then some (char, cursor.next)
    else some ('\n', cursor.next)

/-- Whether a cursor is at the first column and at three characters that start or end a
document. -/
def atMark (cursor : Cursor) : Bool := cursor.column == 0 && startsWithMark cursor.text

/-- What remains is one character shorter after a step, unless nothing remained. -/
theorem next_text (cursor : Cursor) : cursor.next.text = cursor.text.tail := by
  obtain ⟨text, line, column, offset⟩ := cursor
  cases text with
  | nil => rfl
  | cons char rest => by_cases ends : startsLine char rest = true <;> simp [next, ends]

/-- After some steps that many characters are gone. -/
theorem skip_text (count : Nat) (cursor : Cursor) :
    (cursor.skip count).text = cursor.text.drop count := by
  induction count generalizing cursor with
  | zero => rfl
  | succ count further =>
    rw [skip, further, next_text]
    cases cursor.text <;> simp

end Cursor

end Mustache.Yaml
