/-!
**Tokens of a template.**

A token is a piece of plain text or a tag, together with its place in the template. A block tag
carries its body once the tokens have been arranged as a tree, and a partial tag carries what its
line held before it.

* `Token`: the tokens.
* `Token.Kind`: their sorts.
* `Span`: the content of a token and the offsets it covers.
* `HostLine`: the part of a line before a tag.
-/

namespace Mustache

/-- The content of a token, the offset it starts at, and the offset after its end. An offset below
zero counts from the end of the template; reading a template makes no such offset. -/
structure Span where
  value : String
  start : Int
  stop : Int
  deriving DecidableEq, Repr, Inhabited

/-- The part of a line before a tag: its blanks, every other character standing as a space; the
number of tags in it; and whether it holds a character that is not blank. -/
structure HostLine where
  indentation : String := ""
  tagIndex : Int := 0
  hasNonBlank : Bool := false
  deriving DecidableEq, Repr

/-- A token of a template. -/
inductive Token where
  | text (span : Span)
  /-- A variable, escaped or not. -/
  | interpolation (escaped : Bool) (span : Span)
  /-- A section, or an inverted one; its body; and where its closing tag starts. -/
  | block (inverted : Bool) (span : Span) (body : List Token) (bodyStop : Int)
  | close (span : Span)
  | partialTag (span : Span) (host : HostLine)
  | comment (span : Span)
  | delimiters (span : Span)
  deriving Repr, Inhabited

namespace Token

/-- The sorts of tokens. -/
inductive Kind where
  | text
  | name
  | unescaped
  | plainSection
  | invertedSection
  | close
  | partialTag
  | comment
  | delimiters
  deriving DecidableEq, Repr

/-- The mark of a sort: the sigil of its tags, or a word where there is none. -/
def Kind.mark : Kind → String
  | text => "text"
  | name => "name"
  | unescaped => "&"
  | plainSection => "#"
  | invertedSection => "^"
  | close => "/"
  | partialTag => ">"
  | comment => "!"
  | delimiters => "="

/-- The label of a sort in an outline. -/
def Kind.label : Kind → String
  | text => "TEXT"
  | name => "NAME"
  | unescaped => "UNESCAPED"
  | plainSection => "SECTION"
  | invertedSection => "INVERTED"
  | close => "CLOSE"
  | partialTag => "PARTIAL"
  | comment => "COMMENT"
  | delimiters => "SET_DELIMITERS"

/-- The sort of a token. -/
def kind : Token → Kind
  | text _ => .text
  | interpolation true _ => .name
  | interpolation false _ => .unescaped
  | block false _ _ _ => .plainSection
  | block true _ _ _ => .invertedSection
  | close _ => .close
  | partialTag _ _ => .partialTag
  | comment _ => .comment
  | delimiters _ => .delimiters

/-- The content and the place of a token. -/
def span : Token → Span
  | text span => span
  | interpolation _ span => span
  | block _ span _ _ => span
  | close span => span
  | partialTag span _ => span
  | comment span => span
  | delimiters span => span

/-- The end of the body of a block that is not closed: before the last character of the
template. -/
def openStop : Int := -1

/-- A token of a sort, without a body and at the start of its line. -/
def ofKind (kind : Kind) (span : Span) : Token :=
  match kind with
  | .text => text span
  | .name => interpolation true span
  | .unescaped => interpolation false span
  | .plainSection => block false span [] openStop
  | .invertedSection => block true span [] openStop
  | .close => close span
  | .partialTag => partialTag span {}
  | .comment => comment span
  | .delimiters => delimiters span

/-- A piece of plain text. -/
def isText : Token → Bool
  | text _ => true
  | _ => false

/-- A variable, escaped or not. -/
def isInterpolation : Token → Bool
  | interpolation _ _ => true
  | _ => false

end Token

end Mustache
