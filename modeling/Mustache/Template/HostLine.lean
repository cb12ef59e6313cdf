import Mustache.Template.Token
import Mustache.Text.Blank

/-!
**What a line holds before a tag.**

A partial tag is rendered with the indentation of its line, so it carries what its line held before
it. A line ends with the text token of a line feed; a line feed within a tag ends no line.

* `HostLine.after`: the part of a line after one more token.
* `Token.annotate`: tokens whose partial tags carry their lines.
-/

namespace Mustache

/-- A line after one more character of plain text. -/
def HostLine.afterChar (line : HostLine) (char : Char) : HostLine :=
  if char = '\n' then {}
  else
    { line with
      indentation := line.indentation.push (if Text.isBlank char then char else ' ')
      hasNonBlank := line.hasNonBlank || !Text.isBlank char }

/-- A line after one more token: plain text is added character by character, and a tag is
counted. -/
def HostLine.after (line : HostLine) : Token → HostLine
  | .text span => span.value.toList.foldl HostLine.afterChar line
  | _ => { line with tagIndex := line.tagIndex + 1 }

namespace Token

/-- A partial tag with the line before it; any other token as it is. -/
def onLine (line : HostLine) : Token → Token
  | partialTag span _ => partialTag span line
  | token => token

/-- **Tokens whose partial tags carry their lines**, the first token standing on a line. -/
def annotate (line : HostLine) : List Token → List Token
  | [] => []
  | token :: rest => token.onLine line :: annotate (line.after token) rest

end Token

end Mustache
