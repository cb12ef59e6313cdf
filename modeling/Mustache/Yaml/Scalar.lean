import Mustache.Text.Digit
import Mustache.Yaml.Cursor
import Mustache.Yaml.Defect

/-!
**Scalars.**

A scalar is a text in one of five styles. A plain one ends where YAML's own signs begin, a quoted
one at its quote mark, and a block one where its indentation ends. All but literal blocks fold their
lines.

* `readPlain`, `readQuoted`, `readBlock`: a scalar in a style, and what follows it.
-/

namespace Mustache.Yaml

/-- Where a scalar stands: whether between brackets, and from which column on lines belong to it. -/
structure Surroundings where
  inBrackets : Bool
  margin : Nat

/-- A scalar that was read: its content, what follows, and whether a key may start there. -/
structure Reading where
  content : List Char
  cursor : Cursor
  allowsKey : Bool

/-- The text that line ends between two words stand for: one line feed is a space, and of several
the first is left out. -/
def fold (first : Char) (others : List Char) : List Char :=
  if first != '\n' then first :: others
  else if others.isEmpty then [' ']
  else others

/-! ### Plain scalars -/

/-- The signs that end a plain scalar between brackets. -/
def bracketSigns : List Char := [',', '[', ']', '\x7b', '\x7d']

/-- Whether a plain scalar ends before a text: at a blank, at a colon before a blank, and between
brackets at their signs. -/
def endsPlain (inBrackets : Bool) : List Char → Bool
  | [] => true
  | char :: rest =>
    isSpacing char || (char == ':' && endsWord rest) || (inBrackets && bracketSigns.contains char)

/-- The word of a plain scalar at the start of a text. -/
def plainWord (inBrackets : Bool) : List Char → List Char
  | [] => []
  | char :: rest =>
    if endsPlain inBrackets (char :: rest) then [] else char :: plainWord inBrackets rest

/-- What stands between two words of a plain scalar: the text it stands for, if the scalar goes on
behind it, the cursor behind it, and whether it crosses a line end. -/
structure PlainGap where
  text : Option (List Char)
  cursor : Cursor
  crossesLine : Bool

/-- The empty lines of a plain scalar and the spaces behind them, up to a document mark. -/
def readPlainBreaks : Nat → Cursor → Option (List Char) × Cursor
  | 0, cursor => (some [], cursor)
  | steps + 1, cursor =>
    if startsWithMark cursor.text then (none, cursor)
    else
      let atText := cursor.skipSpaces
      match atText.lineEnd? with
      | none => (some [], atText)
      | some (char, behind) =>
        let (others, last) := readPlainBreaks steps behind
        (others.map (char :: ·), last)

/-- The gap behind a word of a plain scalar. A tab is part of no gap. -/
def PlainGap.read (cursor : Cursor) : PlainGap :=
  let (spaces, behind) := cursor.span (· == ' ')
  match behind.lineEnd? with
  | none => ⟨if spaces.isEmpty then none else some spaces, behind, false⟩
  | some (char, start) =>
    let (others, last) := readPlainBreaks (cursor.text.length + 1) start
    ⟨others.map (fold char), last, true⟩

/-- The rest of a plain scalar behind the text of a gap. Every word takes at least one character, so
as many steps as characters are enough. -/
def readPlainFrom (place : Surroundings) :
    Nat → (before : List Char) → (allowsKey : Bool) → Cursor → Reading
  | 0, _, allowsKey, cursor => ⟨[], cursor, allowsKey⟩
  | steps + 1, before, allowsKey, cursor =>
    let word := plainWord place.inBrackets cursor.text
    if cursor.text.head? == some '#' || word.isEmpty then ⟨[], cursor, allowsKey⟩
    else
      let gap := PlainGap.read (cursor.skip word.length)
      match gap.text with
      | none => ⟨before ++ word, gap.cursor, gap.crossesLine⟩
      | some between =>
        if !place.inBrackets && gap.cursor.column < place.margin then
          ⟨before ++ word, gap.cursor, gap.crossesLine⟩
        else
          let others := readPlainFrom place steps between gap.crossesLine gap.cursor
          { others with content := before ++ word ++ others.content }

/-- **A plain scalar** at a cursor. -/
def readPlain (place : Surroundings) (cursor : Cursor) : Reading :=
  readPlainFrom place (cursor.text.length + 1) [] false cursor

/-! ### Escapes -/

/-- The character that an escape of one letter stands for. -/
def letterEscape? : Char → Option Char
  | '0' => some '\x00'
  | 'a' => some '\x07'
  | 'b' => some '\x08'
  | 't' => some '\t'
  | '\t' => some '\t'
  | 'n' => some '\n'
  | 'v' => some '\x0b'
  | 'f' => some '\x0c'
  | 'r' => some '\r'
  | 'e' => some '\x1b'
  | ' ' => some ' '
  | '"' => some '"'
  | '/' => some '/'
  | '\\' => some '\\'
  | 'N' => some '\x85'
  | '_' => some '\xa0'
  | 'L' => some '\u2028'
  | 'P' => some '\u2029'
  | _ => none

/-- The number of hexadecimal digits that follow a letter. -/
def codeLength? : Char → Option Nat
  | 'x' => some 2
  | 'u' => some 4
  | 'U' => some 8
  | _ => none

/-- The number that hexadecimal digits denote, read on from a number. -/
def hexFrom? (value : Nat) : List Char → Option Nat
  | [] => some value
  | char :: rest =>
    match Text.hexValue? char with
    | some digit => hexFrom? (value * 16 + digit) rest
    | none => none

/-- The greatest number of a character. -/
def lastCode : Nat := 0x10FFFF

/-- The numbers of characters are looked up among so many. -/
def codeBound : Nat := 0x80000000

/-- The character of so many hexadecimal digits at the start of a text. -/
def codeEscape (length : Nat) (text : List Char) : Except Defect Char :=
  let digits := text.take length
  match hexFrom? 0 digits with
  | none => .error .malformed
  | some code =>
    if digits.length < length then .error .malformed
    else if codeBound ≤ code then .error .beyondBounds
    else if lastCode < code then .error .noCharacter
    else if code.isValidChar then .ok (Char.ofNat code)
    else .error .malformed

/-- An escape behind a backslash: its character, and the number of characters it takes. -/
def readEscape : List Char → Except Defect (Char × Nat)
  | [] => .error .malformed
  | letter :: rest =>
    match codeLength? letter, letterEscape? letter with
    | some length, _ => (codeEscape length rest).map (·, length + 1)
    | none, some char => .ok (char, 1)
    | none, none => .error .malformed

/-! ### Quoted scalars -/

/-- The empty lines of a quoted scalar, and the blanks behind them. No document mark may start one
of these lines. -/
def readQuotedBreaks : Nat → Cursor → Except Defect (List Char × Cursor)
  | 0, cursor => .ok ([], cursor)
  | steps + 1, cursor =>
    if startsWithMark cursor.text then .error .malformed
    else
      let (_, atText) := cursor.span isWhite
      match atText.lineEnd? with
      | none => .ok ([], atText)
      | some (char, behind) =>
        (readQuotedBreaks steps behind).map fun (others, last) => (char :: others, last)

/-- What stands between two words of a quoted scalar: blanks, or line ends, which are folded. -/
def readQuotedGap (cursor : Cursor) : Except Defect (List Char × Cursor) :=
  let (white, behind) := cursor.span isWhite
  if behind.text.isEmpty then .error .malformed
  else
    match behind.lineEnd? with
    | none => .ok (white, behind)
    | some (char, start) =>
      (readQuotedBreaks (cursor.text.length + 1) start).map fun (others, last) =>
        (fold char others, last)

/-- The word of a quoted scalar at a cursor, and the cursor behind it. Within single quotes the only
escape is the quote mark, written twice. A backslash before a line end takes the empty lines behind
it in, and the word goes on. -/
def readQuotedWord (mark : Char) : Nat → Cursor → Except Defect (List Char × Cursor)
  | 0, _ => .error .malformed
  | steps + 1, cursor =>
    let goOn (chars : List Char) (behind : Cursor) :=
      (readQuotedWord mark steps behind).map fun (word, last) => (chars ++ word, last)
    match cursor.text with
    | [] => .ok ([], cursor)
    | char :: rest =>
      if mark == '\'' && char == '\'' && rest.head? == some '\'' then goOn ['\''] (cursor.skip 2)
      else if char == mark || isSpacing char then .ok ([], cursor)
      else if mark == '"' && char == '\\' then
        match cursor.next.lineEnd? with
        | some (_, start) =>
          match readQuotedBreaks (cursor.text.length + 1) start with
          | .ok (breaks, behind) => goOn breaks behind
          | .error defect => .error defect
        | none =>
          match readEscape rest with
          | .ok (letter, count) => goOn [letter] (cursor.skip (count + 1))
          | .error defect => .error defect
      else goOn [char] cursor.next

/-- A quoted scalar behind its first quote mark. -/
def readQuotedFrom (mark : Char) : Nat → Cursor → Except Defect (List Char × Cursor)
  | 0, _ => .error .malformed
  | steps + 1, cursor =>
    match readQuotedWord mark (cursor.text.length + 1) cursor with
    | .error defect => .error defect
    | .ok (word, behind) =>
      if behind.text.head? == some mark then .ok (word, behind.next)
      else
        match readQuotedGap behind with
        | .error defect => .error defect
        | .ok (between, start) =>
          (readQuotedFrom mark steps start).map fun (others, last) =>
            (word ++ between ++ others, last)

/-- **A quoted scalar** at a cursor, which is at its first quote mark. -/
def readQuoted (mark : Char) (cursor : Cursor) : Except Defect Reading :=
  (readQuotedFrom mark (cursor.text.length + 1) cursor.next).map fun (content, behind) =>
    ⟨content, behind, false⟩

/-! ### Block scalars -/

/-- What becomes of the line ends at the end of a block: none stays, one stays, or all stay. -/
inductive Chomping where
  | strip
  | clip
  | keep
  deriving DecidableEq, Repr

/-- What the first line of a block says: how its end is chomped, and how far it is indented. -/
structure BlockHeader where
  chomping : Option Chomping
  increment : Option Nat

/-- A sign for chomping at the start of a text, and the rest. -/
def readChomping : List Char → Option Chomping × List Char
  | '+' :: rest => (some .keep, rest)
  | '-' :: rest => (some .strip, rest)
  | text => (none, text)

/-- A digit other than zero at the start of a text, and the rest; none if the digit is a zero. -/
def readIncrement? : List Char → Option (Option Nat × List Char)
  | char :: rest =>
    if char == '0' then none
    else if Text.isAsciiDigit char then some (some (char.toNat - 48), rest)
    else some (none, char :: rest)
  | [] => some (none, [])

/-- The first line of a block behind its sign, and the cursor at the start of the next line. A
comment needs a space before it. -/
def readHeader? (cursor : Cursor) : Option (BlockHeader × Cursor) :=
  let (early, afterEarly) := readChomping cursor.text
  match readIncrement? afterEarly with
  | none => none
  | some (increment, afterIncrement) =>
    let (late, rest) :=
      if early.isSome then (early, afterIncrement) else readChomping afterIncrement
    let behind := cursor.skip (cursor.text.length - rest.length)
    if !(endsLine behind.text || behind.text.head? == some ' ') then none
    else
      let atText := behind.skipSpaces
      let atEnd := if atText.text.head? == some '#' then atText.skipLine else atText
      if !endsLine atEnd.text then none
      else
        match atEnd.lineEnd? with
        | some (_, start) => some (⟨late, increment⟩, start)
        | none => some (⟨late, increment⟩, atEnd)

/-- The empty lines at the start of a block: their line ends, the widest column that their spaces
and those of the first line with content reach, and the cursor there. -/
def readLeadingLines : Nat → Nat → Cursor → List Char × Nat × Cursor
  | 0, widest, cursor => ([], widest, cursor)
  | steps + 1, widest, cursor =>
    let atText := cursor.skipSpaces
    let hasSpaces := cursor.text.head? == some ' '
    let widest := if hasSpaces then max widest atText.column else widest
    match atText.lineEnd? with
    | none => ([], widest, atText)
    | some (char, start) =>
      let (others, result) := readLeadingLines steps widest start
      (char :: others, result)

/-- The empty lines of a block whose lines start at a column, and the cursor at the next line with
content, behind its indentation. -/
def readEmptyLines (column : Nat) : Nat → Cursor → List Char × Cursor
  | 0, cursor => ([], cursor)
  | steps + 1, cursor =>
    let spaces := (cursor.text.takeWhile (· == ' ')).length
    let atText := cursor.skip (min spaces (column - cursor.column))
    match atText.lineEnd? with
    | none => ([], atText)
    | some (char, start) =>
      let (others, last) := readEmptyLines column steps start
      (char :: others, last)

/-- What stands between two lines of a block: the line end of the first and the empty lines after
it. In a folded block two lines that start with no blank are joined. -/
def blockJoint (folded : Bool) (lineEnd breaks : List Char) : List Char :=
  if folded && lineEnd == ['\n'] then
    if breaks.isEmpty then [' '] else breaks
  else lineEnd ++ breaks

/-- The line ends that stay at the end of a block. -/
def chomp (chomping : Option Chomping) (lineEnd breaks : List Char) : List Char :=
  match chomping.getD .clip with
  | .strip => []
  | .clip => lineEnd
  | .keep => lineEnd ++ breaks

/-- How the lines of a block are read: whether they are folded, what becomes of the line ends at
the end, the column they start at, and whether a document mark ends the block. -/
structure BlockForm where
  folded : Bool
  chomping : Option Chomping
  column : Nat
  endsAtMark : Bool

/-- A character that is neither a space nor a tab at a cursor. -/
def startsInked (cursor : Cursor) : Bool := !cursor.text.head?.any isWhite

/-- The lines of a block from a cursor on, which is at one of them, with what stands before it. -/
def readBlockLines (form : BlockForm) : Nat → (before : List Char) → Cursor → List Char × Cursor
  | 0, before, cursor => (before, cursor)
  | steps + 1, before, cursor =>
    let (line, behind) := cursor.span fun char => !isBreak char
    let (lineEnd, start) := match behind.lineEnd? with
      | some (char, start) => ([char], start)
      | none => ([], behind)
    let (breaks, next) := readEmptyLines form.column (cursor.text.length + 1) start
    let isMark := form.endsAtMark && next.atMark
    let goesOn := next.column == form.column && !next.text.isEmpty && !isMark
    if goesOn then
      let joint := blockJoint (form.folded && startsInked cursor && startsInked next) lineEnd breaks
      let (others, last) := readBlockLines form steps joint next
      (before ++ line ++ others, last)
    else (before ++ line ++ chomp form.chomping lineEnd breaks, next)

/-- **A block scalar** at a cursor, which is at its sign. Its indentation is given by its first
line, or it is that of its first line with content. If it is not given, no space before the first
line with content may reach beyond the first line, should that hold only spaces. -/
def readBlock (folded : Bool) (margin : Nat) (cursor : Cursor) : Except Defect Reading :=
  match readHeader? cursor.next with
  | none => .error .malformed
  | some (header, first) =>
    let steps := cursor.text.length + 1
    let finish (column : Nat) (breaks : List Char) (next : Cursor) (atMargin : Bool) :
        Except Defect Reading :=
      let form : BlockForm := ⟨folded, header.chomping, column, atMargin⟩
      let (content, last) :=
        if next.column == column && !next.text.isEmpty then readBlockLines form steps breaks next
        else (chomp header.chomping [] breaks, next)
      .ok ⟨content, last, true⟩
    match header.increment with
    | some increment =>
      let column := max margin 1 + increment - 1
      let (breaks, next) := readEmptyLines column steps first
      finish column breaks next false
    | none =>
      let (breaks, widest, next) := readLeadingLines steps 0 first
      let firstColumn := first.skipSpaces.column
      if !breaks.isEmpty && 0 < firstColumn && firstColumn < widest then .error .malformed
      else finish (max margin widest) breaks next (margin == 0)

end Mustache.Yaml
