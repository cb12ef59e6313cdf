import Mustache.Yaml.Scalar

/-!
**Tokens of YAML.**

A token is a scalar, a name, or a sign of structure. Collections that are told by their indentation
have tokens for their starts and ends as those between brackets have.

* `Token`: the tokens.
* `Lexing`: the tokens so far, the columns of the open collections, and the places that may turn out
  to be keys.
* `Lexing.step`: one more sign, scalar or name.
* `Lexed.ofText`: the tokens of a text, up to where it cannot be read.
-/

namespace Mustache.Yaml

/-- A token. -/
inductive Token where
  | documentStart
  | documentEnd
  /-- A list by indentation starts. -/
  | listStart
  /-- A mapping by indentation starts. -/
  | mappingStart
  /-- A collection by indentation ends. -/
  | blockEnd
  | openBracket
  | closeBracket
  | openBrace
  | closeBrace
  | comma
  /-- An item of a list by indentation follows. -/
  | item
  /-- A key follows. -/
  | key
  /-- The value of a key follows. -/
  | value
  | anchor (name : String)
  | alias (name : String)
  | plain (content : String)
  | quoted (content : String)
  /-- The text ends. -/
  | textEnd
  deriving DecidableEq, Repr

/-- The tokens of a text that were read, and why no more of them were, if they do not end with the
text. -/
structure Lexed where
  tokens : List Token
  defect : Defect

/-- A place where a key would start if a colon followed: its line, column and offset, the number of
tokens before it, and whether a colon has to follow. -/
structure KeyMark where
  line : Nat
  column : Nat
  offset : Nat
  before : Nat
  required : Bool

/-- The largest distance between the start of a key and its colon. -/
def keyReach : Nat := 1024

/-- Whether a colon at a cursor could follow a key: on its line and within reach. -/
def KeyMark.isLive (mark : KeyMark) (cursor : Cursor) : Bool :=
  mark.line == cursor.line && cursor.offset ≤ mark.offset + keyReach

/-- The brackets that collections stand between. -/
inductive Bracket where
  | square
  | curly
  deriving DecidableEq, Repr

/-- A text on its way to tokens: the cursor, the tokens, the latest first, and their number, the
columns of the open collections by indentation, the innermost first, the mark of a key in the
collection at hand, each open bracket with the mark around it, the innermost first, and whether a
key may start here. -/
structure Lexing where
  cursor : Cursor
  tokens : List Token := []
  count : Nat := 0
  columns : List Nat := []
  mark : Option KeyMark := none
  brackets : List (Bracket × Option KeyMark) := []
  keyAllowed : Bool := true

namespace Lexing

/-! ### Changes -/

/-- Whether the cursor is between brackets. -/
def inBrackets (state : Lexing) : Bool := !state.brackets.isEmpty

/-- The least column of what belongs to the innermost collection by indentation. -/
def margin (state : Lexing) : Nat :=
  match state.columns with
  | [] => 0
  | column :: _ => column + 1

/-- One more token. -/
def emit (state : Lexing) (token : Token) : Lexing :=
  { state with tokens := token :: state.tokens, count := state.count + 1 }

/-- One more token behind so many others. -/
def insertAfter (state : Lexing) (before : Nat) (token : Token) : Lexing :=
  let later := state.count - before
  { state with
    tokens := state.tokens.take later ++ token :: state.tokens.drop later
    count := state.count + 1 }

/-- The cursor some characters further on. -/
def skip (state : Lexing) (count : Nat) : Lexing :=
  { state with cursor := state.cursor.skip count }

/-- Whether a key may start from here on. -/
def allowKey (state : Lexing) (allowed : Bool) : Lexing := { state with keyAllowed := allowed }

/-- A collection by indentation starts at a column behind so many tokens, if the column is beyond
the innermost one. Between brackets indentation does not count. -/
def openBlock (state : Lexing) (column before : Nat) (token : Token) : Lexing :=
  if state.inBrackets || column < state.margin then state
  else { state.insertAfter before token with columns := column :: state.columns }

/-- The columns that are not beyond a margin, and the number of those that are. -/
def splitColumns (margin : Nat) : List Nat → Nat × List Nat
  | [] => (0, [])
  | column :: columns =>
    if column < margin then (0, column :: columns)
    else
      let (ended, others) := splitColumns margin columns
      (ended + 1, others)

/-- The collections by indentation end whose columns are not before a margin. -/
def closeBlocks (state : Lexing) (margin : Nat) : Lexing :=
  if state.inBrackets then state
  else
    let (ended, columns) := splitColumns margin state.columns
    { state with
      tokens := List.replicate ended .blockEnd ++ state.tokens
      count := state.count + ended
      columns := columns }

/-! ### Keys -/

/-- The marks of keys, that of the collection at hand first. -/
def marks (state : Lexing) : List KeyMark :=
  state.mark.toList ++ state.brackets.filterMap Prod.snd

/-- The mark of the first token that may still turn out to be a key. -/
def firstMark? (state : Lexing) : Option KeyMark :=
  (state.marks.filter fun mark => mark.required || mark.isLive state.cursor).getLast?

/-- A mark that a colon could follow at a cursor. -/
def keepLive (cursor : Cursor) (mark : Option KeyMark) : Option KeyMark :=
  mark.filter fun mark => mark.isLive cursor

/-- Without the marks that a colon at the cursor could not follow; a fault if a colon should have
followed one of them. -/
def dropStale (state : Lexing) : Except Defect Lexing :=
  if state.marks.any fun mark => mark.required && !mark.isLive state.cursor then .error .malformed
  else
    .ok { state with
      mark := keepLive state.cursor state.mark
      brackets := state.brackets.map fun level => (level.1, keepLive state.cursor level.2) }

/-- The mark of a key goes; a fault if a colon should have followed. -/
def dropMark (state : Lexing) : Except Defect Lexing :=
  if state.mark.any KeyMark.required then .error .malformed else .ok { state with mark := none }

/-- A key may start at the cursor, and is marked if so. It has to be one where an entry of a mapping
by indentation starts. -/
def markKey (state : Lexing) : Except Defect Lexing :=
  if state.keyAllowed then
    let cursor := state.cursor
    let required := !state.inBrackets && state.margin == cursor.column + 1
    let mark : KeyMark := ⟨cursor.line, cursor.column, cursor.offset, state.count, required⟩
    state.dropMark.map fun cleared => { cleared with mark := some mark }
  else .ok state

/-! ### Signs -/

/-- A colon: what is marked was a key, or else a key without content comes before it. -/
def readColon (state : Lexing) : Except Defect Lexing :=
  match state.mark with
  | some mark =>
    let keyed := (state.insertAfter mark.before .key).openBlock mark.column mark.before
      .mappingStart
    .ok ((({ keyed with mark := none }).allowKey false).skip 1 |>.emit .value)
  | none =>
    if state.inBrackets then .ok ((state.allowKey false).skip 1 |>.emit .value)
    else if state.keyAllowed then
      let opened := state.openBlock state.cursor.column state.count .mappingStart
      .ok ((opened.allowKey true).skip 1 |>.emit .value)
    else .error .malformed

/-- A sign at which a collection by indentation may start: a question mark or a dash. -/
def readBlockSign (state : Lexing) (opening sign : Token) (keyAllowed : Bool) :
    Except Defect Lexing :=
  if !state.inBrackets && !state.keyAllowed then .error .malformed
  else
    (state.openBlock state.cursor.column state.count opening).dropMark.map fun cleared =>
      (cleared.allowKey keyAllowed).skip 1 |>.emit sign

/-- An opening bracket, which may start a key. -/
def readOpening (state : Lexing) (bracket : Bracket) (sign : Token) : Except Defect Lexing :=
  state.markKey.map fun marked =>
    let inner := { marked with mark := none, brackets := (bracket, marked.mark) :: marked.brackets }
    (inner.allowKey true).skip 1 |>.emit sign

/-- A closing bracket. -/
def readClosing (state : Lexing) (sign : Token) : Except Defect Lexing :=
  state.dropMark.map fun cleared =>
    let outer := match cleared.brackets with
      | (_, mark) :: brackets => { cleared with mark := mark, brackets := brackets }
      | [] => cleared
    (outer.allowKey false).skip 1 |>.emit sign

/-- A comma. -/
def readComma (state : Lexing) : Except Defect Lexing :=
  state.dropMark.map fun cleared => (cleared.allowKey true).skip 1 |>.emit .comma

/-- Three characters that start or end a document. -/
def readDocumentMark (state : Lexing) (sign : Token) : Except Defect Lexing :=
  (state.closeBlocks 0).dropMark.map fun cleared =>
    (cleared.allowKey false).skip 3 |>.emit sign

/-! ### Names and scalars -/

/-- A character of the name of an anchor: any that is seen, but no sign of a collection between
brackets. -/
def isNameChar (char : Char) : Bool :=
  let code := char.toNat
  !bracketSigns.contains char && char != '\ufeff' &&
    ((0x21 ≤ code && code ≤ 0x7E) || (0xA0 ≤ code && code ≤ 0xFFFD) || 0x10000 ≤ code)

/-- Whether the name of an anchor may end before a text. -/
def endsName : List Char → Bool
  | [] => true
  | char :: _ => isSpacing char || bracketSigns.contains char

/-- An anchor or an alias, which may start a key. -/
def readName (state : Lexing) (sign : String → Token) : Except Defect Lexing :=
  match state.markKey with
  | .error defect => .error defect
  | .ok marked =>
    let (name, rest) := marked.cursor.next.span isNameChar
    if name.isEmpty || !endsName rest.text then .error .malformed
    else
      .ok ({ marked with cursor := rest, keyAllowed := false }.emit (sign (String.ofList name)))

/-- A scalar that may be a key. -/
def readInline (state : Lexing) (sign : String → Token) (read : Cursor → Except Defect Reading) :
    Except Defect Lexing :=
  match state.markKey with
  | .error defect => .error defect
  | .ok marked =>
    (read marked.cursor).map fun reading =>
      { marked with cursor := reading.cursor, keyAllowed := reading.allowsKey }.emit
        (sign (String.ofList reading.content))

/-- A block scalar, which is no key. -/
def readBlockScalar (state : Lexing) (folded : Bool) : Except Defect Lexing :=
  match state.dropMark with
  | .error defect => .error defect
  | .ok cleared =>
    (readBlock folded cleared.margin cleared.cursor).map fun reading =>
      { cleared with cursor := reading.cursor, keyAllowed := reading.allowsKey }.emit
        (.quoted (String.ofList reading.content))

/-- The signs that start no plain scalar. -/
def signs : List Char :=
  ['-', '?', ':', ',', '[', ']', '\x7b', '\x7d', '#', '&', '*', '!', '|', '>', '\'', '"', '%', '@',
    '\x60']

/-- Whether a plain scalar may start with a text: with no sign, or with one of the signs that count
as such only before a blank. -/
def startsPlain (inBrackets : Bool) : List Char → Bool
  | [] => false
  | char :: rest =>
    !(isSpacing char || signs.contains char) ||
      (char == '-' && !endsWord rest) ||
      (inBrackets && char == ':' && !rest.head?.any isWhite) ||
      (!inBrackets && (char == '?' || char == ':') && !endsWord rest)

/-! ### Steps -/

/-- What follows blanks, comments and line ends. A tab is a blank only between brackets; behind a
line end a key may start. Every line is a step. -/
def skipGaps (state : Lexing) : Nat → Lexing
  | 0 => state
  | steps + 1 =>
    let isGap := fun (char : Char) => char == ' ' || (char == '\t' && state.inBrackets)
    let (_, atText) := state.cursor.span isGap
    let atEnd := if atText.text.head? == some '#' then atText.skipLine else atText
    match atEnd.lineEnd? with
    | some (_, start) =>
      let moved := { state with cursor := start }
      skipGaps (moved.allowKey (moved.keyAllowed || !moved.inBrackets)) steps
    | none => { state with cursor := atEnd }

/-- Whether a colon at the cursor is a sign. By indentation it is one before a blank, and so between
square brackets; between curly ones it is one anywhere but behind another colon that is yet to be
understood. -/
def isColonSign (state : Lexing) (isBehindColon : Bool) : Bool :=
  let atWordEnd := endsWord state.cursor.text.tail
  match state.brackets with
  | (.curly, _) :: _ => atWordEnd || !isBehindColon
  | _ => atWordEnd

/-- What starts at a cursor that is at no gap. -/
def readNext (state : Lexing) (isBehindColon : Bool) : Except Defect Lexing :=
  let cursor := state.cursor
  let inBrackets := state.inBrackets
  let second := cursor.text.tail
  if cursor.atMark then
    state.readDocumentMark
      (if cursor.text.head? == some '-' then .documentStart else .documentEnd)
  else
    match cursor.text with
    | [] => .error .malformed
    | '[' :: _ => state.readOpening .square .openBracket
    | '\x7b' :: _ => state.readOpening .curly .openBrace
    | ']' :: _ => state.readClosing .closeBracket
    | '\x7d' :: _ => state.readClosing .closeBrace
    | ',' :: _ => state.readComma
    | '*' :: _ => state.readName .alias
    | '&' :: _ => state.readName .anchor
    | '\'' :: _ => state.readInline .quoted (readQuoted '\'')
    | '"' :: _ => state.readInline .quoted (readQuoted '"')
    | char :: _ =>
      if char == '-' && endsWord second then state.readBlockSign .listStart .item true
      else if char == '?' && (inBrackets || endsWord second) then
        state.readBlockSign .mappingStart .key (!inBrackets)
      else if char == ':' && state.isColonSign isBehindColon then state.readColon
      else if char == '|' && !inBrackets then state.readBlockScalar false
      else if char == '>' && !inBrackets then state.readBlockScalar true
      else if startsPlain inBrackets cursor.text then
        state.readInline .plain fun place => .ok (readPlain ⟨inBrackets, state.margin⟩ place)
      else .error .malformed

/-- Whether the last token is a colon that is yet to be understood, since a key may start before
it. -/
def isBehindColon (state : Lexing) : Bool :=
  state.tokens.head? == some .value &&
    state.marks.any fun mark => mark.isLive state.cursor

/-- **One more sign, scalar or name**, or the end of the text. Collections by indentation end that
it is not part of. -/
def step (state : Lexing) : Except Defect Lexing :=
  match (state.skipGaps (state.cursor.text.length + 1)).dropStale with
  | .error defect => .error defect
  | .ok near =>
    if near.cursor.text.isEmpty then
      (near.closeBlocks 0).dropMark.map fun last => last.emit .textEnd
    else (near.closeBlocks (near.cursor.column + 1)).readNext state.isBehindColon

/-- The tokens that are understood where reading ends: all before the first that may still turn out
to be a key. -/
def understood (state : Lexing) : List Token :=
  let later := match state.firstMark? with
    | some mark => state.count - mark.before
    | none => 0
  (state.tokens.drop later).reverse

/-- All tokens from a state on. Every step takes at least one character, so as many steps as
characters are enough. -/
def finish : Nat → Lexing → Lexed
  | 0, state => ⟨state.understood, .malformed⟩
  | steps + 1, state =>
    match state.dropStale.bind step with
    | .error defect => ⟨state.understood, defect⟩
    | .ok next =>
      if next.tokens.head? == some .textEnd then ⟨next.tokens.reverse, .malformed⟩
      else finish steps next

end Lexing

/-- **The tokens of a text**, up to where it cannot be read. Directives and tags are not read. -/
def Lexed.ofText (text : String) : Lexed :=
  let cursor := Cursor.start text.toList
  Lexing.finish (cursor.text.length + 2) { cursor := cursor }

end Mustache.Yaml
