import Mustache.Template.Token
import Mustache.View.Value

/-!
**Tokens as data.**

* `Token.record`: a token as a mapping with its sort, its content, its offsets, and the body of a
  block or the line of a partial tag.
-/

namespace Mustache.Token

/-- The entries that every token has. -/
def spanEntries (mark : String) (span : Span) : List (Value × Value) :=
  [(.text "kind", .text mark), (.text "value", .text span.value),
    (.text "start", .ofInt span.start), (.text "end", .ofInt span.stop)]

mutual

/-- **A token as a mapping.** -/
def record : Token → Value
  | block inverted span body bodyStop =>
    .mapping (spanEntries (block inverted span [] bodyStop).kind.mark span ++
      [(.text "children", .list (records body)), (.text "sectionEnd", .ofInt bodyStop)])
  | partialTag span host =>
    .mapping (spanEntries Kind.partialTag.mark span ++
      [(.text "indentation", .text host.indentation), (.text "tagIndex", .ofInt host.tagIndex),
        (.text "lineHasNonSpace", .bool host.hasNonBlank)])
  | token => .mapping (spanEntries token.kind.mark token.span)

/-- Some tokens as mappings. -/
def records : List Token → List Value
  | [] => []
  | token :: rest => record token :: records rest

end

end Mustache.Token
