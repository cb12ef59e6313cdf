import Mustache.Template.Delimiters
import Mustache.Template.Pattern
import Mustache.Template.Token

/-!
**From a template to its tokens.**

A template is read from left to right. Plain text up to the next opening delimiter becomes one token
per character; a tag becomes one token, and a delimiter tag changes the delimiters from there on.
Sections are not looked at here.

* `readTag?`: one tag.
* `lex`: all tokens, up to the end or to the first place that cannot be read.
* `readTag?_length`: a tag is never empty, so reading comes to an end.
-/

namespace Mustache

namespace Delimiters

/-- The opening delimiter with the blanks after it. -/
def openingPattern (delimiters : Delimiters) : Pattern := .opening delimiters.opening.toList

/-- The closing delimiter with the blanks before it. -/
def closingPattern (delimiters : Delimiters) : Pattern := .closing delimiters.closing.toList

/-- The closing delimiter behind a closing brace, with the blanks before it. -/
def closingBracePattern (delimiters : Delimiters) : Pattern :=
  .closing ('\x7d' :: delimiters.closing.toList)

end Delimiters

namespace Pattern

/-- An equals sign with the blanks before it. -/
def equalsSign : Pattern := .closing ['=']

/-- A closing brace with the blanks before it. -/
def closingBrace : Pattern := .closing ['\x7d']

end Pattern

namespace Lexer

/-! ### One tag -/

/-- The character that tells the sort of a tag, and what follows it. -/
def readSigil (text : List Char) : Option Char × List Char :=
  match Pattern.sigil.scan text with
  | (char :: _, rest) => (some char, rest)
  | ([], rest) => (none, rest)

/-- The sort of a tag by its sigil; a tag without a sigil is a variable. -/
def kindOf : Option Char → Token.Kind
  | some '#' => .plainSection
  | some '^' => .invertedSection
  | some '/' => .close
  | some '>' => .partialTag
  | some '\x7b' => .unescaped
  | some '&' => .unescaped
  | some '=' => .delimiters
  | some '!' => .comment
  | _ => .name

/-- The content of a tag, and what follows it up to the closing delimiter and beyond. A delimiter
tag has its content before an equals sign, and one in three braces before a brace and the closing
delimiter; what stands between these and the closing delimiter is passed over. -/
def readContent (delimiters : Delimiters) (sigil : Option Char) (text : List Char) :
    List Char × List Char :=
  match sigil with
  | some '=' =>
    let (content, rest) := Pattern.equalsSign.scanUntil text
    (content, (delimiters.closingPattern.scanUntil (Pattern.equalsSign.scan rest).2).2)
  | some '\x7b' =>
    let (content, rest) := delimiters.closingBracePattern.scanUntil text
    (content, (delimiters.closingPattern.scanUntil (Pattern.closingBrace.scan rest).2).2)
  | _ => delimiters.closingPattern.scanUntil text

/-- **One tag** at an offset, and the text after it; none if it is not closed. -/
def readTag? (delimiters : Delimiters) (start : Int) (text : List Char) :
    Option (Token × List Char) :=
  let inside := (delimiters.openingPattern.scan text).2
  let (sigil, afterSigil) := readSigil inside
  let (content, beforeClosing) := readContent delimiters sigil (Text.afterBlanks afterSigil)
  match delimiters.closingPattern.matchLength? beforeClosing with
  | none => none
  | some size =>
    let rest := beforeClosing.drop size
    let stop := start + Int.ofNat (text.length - rest.length)
    some (.ofKind (kindOf sigil) ⟨String.ofList content, start, stop⟩, rest)

/-! ### Reading makes progress -/

theorem blanksBefore?_le {content text : List Char} {count : Nat}
    (found : Pattern.blanksBefore? content text = some count) :
    count + content.length ≤ text.length := by
  induction text generalizing count with
  | nil =>
    unfold Pattern.blanksBefore? at found
    split at found
    · rename_i empty
      cases found
      simp [List.isEmpty_iff.mp empty]
    · cases found
  | cons char rest hypothesis =>
    unfold Pattern.blanksBefore? at found
    split at found
    · rename_i before later
      cases found
      split at later
      · have bound := hypothesis later
        simp only [List.length_cons]
        omega
      · cases later
    · split at found
      · rename_i here
        cases found
        simpa using (List.isPrefixOf_iff_prefix.mp here).length_le
      · cases found

/-- A closing delimiter has at least one character. -/
theorem closingPattern_pos {delimiters : Delimiters} {text : List Char} {size : Nat}
    (found : delimiters.closingPattern.matchLength? text = some size) :
    0 < size ∧ size ≤ text.length := by
  unfold Delimiters.closingPattern Pattern.matchLength? at found
  obtain ⟨count, blanks, rfl⟩ := Option.map_eq_some_iff.mp found
  have bound := blanksBefore?_le blanks
  have nonempty : 0 < delimiters.closing.toList.length := by
    rw [List.length_pos_iff]
    intro empty
    exact delimiters.closing_ne (String.toList_eq_nil_iff.mp empty)
  omega

theorem readSigil_length (text : List Char) : (readSigil text).2.length ≤ text.length := by
  have parts := Pattern.scan_length .sigil text
  unfold readSigil
  split <;> rename_i same <;> rw [same] at parts <;> simp only at parts ⊢ <;> omega

theorem readContent_length (delimiters : Delimiters) (sigil : Option Char) (text : List Char) :
    (readContent delimiters sigil text).2.length ≤ text.length := by
  unfold readContent
  split
  · have first := Pattern.scanUntil_length .equalsSign text
    have second := Pattern.scan_length .equalsSign (Pattern.equalsSign.scanUntil text).2
    have third := Pattern.scanUntil_length delimiters.closingPattern
      (Pattern.equalsSign.scan (Pattern.equalsSign.scanUntil text).2).2
    simp only
    omega
  · have first := Pattern.scanUntil_length delimiters.closingBracePattern text
    have second := Pattern.scan_length .closingBrace
      (delimiters.closingBracePattern.scanUntil text).2
    have third := Pattern.scanUntil_length delimiters.closingPattern
      (Pattern.closingBrace.scan (delimiters.closingBracePattern.scanUntil text).2).2
    simp only
    omega
  · have whole := Pattern.scanUntil_length delimiters.closingPattern text
    omega

/-- **A tag is never empty.** -/
theorem readTag?_length {delimiters : Delimiters} {start : Int} {text rest : List Char}
    {token : Token} (read : readTag? delimiters start text = some (token, rest)) :
    rest.length < text.length := by
  unfold readTag? at read
  simp only at read
  split at read
  · cases read
  · rename_i size found
    obtain ⟨_, rfl⟩ := Prod.mk.inj (Option.some.inj read)
    have bounds := closingPattern_pos found
    have opened := Pattern.scan_length delimiters.openingPattern text
    have sorted := readSigil_length (delimiters.openingPattern.scan text).2
    have content := readContent_length delimiters
      (readSigil (delimiters.openingPattern.scan text).2).1
      (Text.afterBlanks (readSigil (delimiters.openingPattern.scan text).2).2)
    have blanks := (List.dropWhile_suffix Text.isBlank
      (l := (readSigil (delimiters.openingPattern.scan text).2).2)).length_le
    unfold Text.afterBlanks at bounds content ⊢
    rw [List.length_drop]
    omega

/-! ### The whole template -/

/-- One token per character of a plain text at an offset. -/
def textTokens (offset : Int) : List Char → List Token
  | [] => []
  | char :: rest =>
    .text ⟨String.singleton char, offset, offset + 1⟩ :: textTokens (offset + 1) rest

/-- The delimiters in force after a token; none if a delimiter tag names no pair. -/
def delimitersAfter? (delimiters : Delimiters) : Token → Option Delimiters
  | .delimiters span => Delimiters.ofText? span.value
  | _ => some delimiters

end Lexer

/-- The tokens of a template up to its end, or up to the first place that cannot be read; what is
wrong there, and the delimiters in force. -/
structure Lexed where
  tokens : List Token
  fault : Option (SyntaxFault.Reason × Int)
  delimiters : Delimiters

/-- Tokens put before what is read later. -/
def Lexed.prepend (tokens : List Token) (later : Lexed) : Lexed :=
  { later with tokens := tokens ++ later.tokens }

open Lexer in
/-- **The tokens of a text** that starts at an offset. A tag that is not closed is a fault at the
end of the template, and a delimiter tag that names no pair is a fault at its start. -/
def lex (delimiters : Delimiters) (offset : Int) (text : List Char) : Lexed :=
  let parts := delimiters.openingPattern.scanUntil text
  let characters := textTokens offset parts.1
  if parts.2.isEmpty then ⟨characters, none, delimiters⟩
  else
    let start := offset + Int.ofNat parts.1.length
    match _read : readTag? delimiters start parts.2 with
    | none => ⟨characters, some (.unclosedTag, offset + Int.ofNat text.length), delimiters⟩
    | some (token, rest) =>
      match delimitersAfter? delimiters token with
      | none =>
        let reason := .invalidTags (Value.text token.span.value).shown
        ⟨characters ++ [token], some (reason, start), delimiters⟩
      | some next => (lex next token.span.stop rest).prepend (characters ++ [token])
termination_by text.length
decreasing_by
  have shorter := readTag?_length _read
  have whole : parts.1.length + parts.2.length = text.length :=
    Pattern.scanUntil_length delimiters.openingPattern text
  omega

end Mustache
