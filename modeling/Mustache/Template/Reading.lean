import Mustache.Template.HostLine
import Mustache.Template.Lexer
import Mustache.Template.Standalone

/-!
**Reading a template.**

The tokens of a template are read one after the other. Along the way each closing tag is held
against the innermost open section, a delimiter tag changes the delimiters, a partial tag is given
what its line holds before it, and the standalone lines are found.

* `Reading`: what has been read so far.
* `Reading.push`: one more token.
* `Reading.pushTag`: one more tag, or the fault that it makes.
* `Reading.read`: the reading of a text.
* `Reading.ofText`: the reading of a whole template.
-/

namespace Mustache

/-- What has been read so far: the delimiters in force, the tokens, the open sections with the
innermost first, the standalone lines, and the line at hand as partial tags see it. -/
structure Reading where
  delimiters : Delimiters
  tokens : Array Token := #[]
  opened : List Span := []
  stripping : Stripping := {}
  line : HostLine := {}

namespace Reading

open Lexer

/-- One more token. -/
def push (reading : Reading) (token : Token) : Reading :=
  { reading with
    tokens := reading.tokens.push (token.onLine reading.line)
    stripping := reading.stripping.after reading.tokens.size token
    line := reading.line.after token }

/-- **One more tag.** A closing tag must end the innermost open section and name it exactly, and a
delimiter tag must name a pair of delimiters. -/
def pushTag (reading : Reading) (token : Token) : Except (SyntaxFault.Reason × Int) Reading :=
  let next := reading.push token
  match token with
  | .block _ span _ _ => .ok { next with opened := span :: reading.opened }
  | .close span =>
    match reading.opened with
    | [] => .error (.unopenedSection span.value, span.start)
    | innermost :: outer =>
      if innermost.value = span.value then .ok { next with opened := outer }
      else .error (.unclosedSection innermost.value, span.start)
  | .delimiters span =>
    match Delimiters.ofText? span.value with
    | some delimiters => .ok { next with delimiters := delimiters }
    | none => .error (.invalidTags (Value.text span.value).shown, span.start)
  | _ => .ok next

/-- **The reading of a text** that starts at an offset, up to its end or to the first fault: plain
text up to the next opening delimiter, one token per character, then a tag, and so on. -/
def read (reading : Reading) (offset : Int) (text : List Char) :
    Except (SyntaxFault.Reason × Int) Reading :=
  let parts := reading.delimiters.openingPattern.scanUntil text
  let here := (textTokens offset parts.1).foldl push reading
  if parts.2.isEmpty then .ok here
  else
    match _read : readTag? reading.delimiters (offset + Int.ofNat parts.1.length) parts.2 with
    | none => .error (.unclosedTag, offset + Int.ofNat text.length)
    | some (token, rest) =>
      match here.pushTag token with
      | .error fault => .error fault
      | .ok next => next.read token.span.stop rest
termination_by text.length
decreasing_by
  have shorter := readTag?_length _read
  have whole : parts.1.length + parts.2.length = text.length :=
    Pattern.scanUntil_length reading.delimiters.openingPattern text
  omega

/-- **The reading of a whole template**; a section that is still open at the end is a fault
there. -/
def ofText (delimiters : Delimiters) (text : List Char) :
    Except (SyntaxFault.Reason × Int) Reading :=
  match read { delimiters } 0 text with
  | .error fault => .error fault
  | .ok reading =>
    match reading.opened with
    | [] => .ok reading
    | innermost :: _ => .error (.unclosedSection innermost.value, Int.ofNat text.length)

/-- The places of the tokens on standalone lines that leave no trace. -/
def stripped (reading : Reading) : List Nat := reading.stripping.result

end Reading

end Mustache
