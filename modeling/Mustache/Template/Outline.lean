import Mustache.Template.Token
import Mustache.Text.Quoted

/-!
**An outline of a tree.**

Each node has one line: its sort, its content in quotes and the offsets it covers, indented by two
spaces for each level.

* `Token.outline`: the outline of a tree from a level on.
-/

namespace Mustache.Token

/-- The line of a node at a level. -/
def outlineLine (level : Int) (token : Token) : String :=
  let indentation := String.ofList (List.replicate (2 * level.toNat) ' ')
  let offsets := "[" ++ toString token.span.start ++ ":" ++ toString token.span.stop ++ "]"
  indentation ++ token.kind.label ++ " " ++ Text.quoted token.span.value ++ " " ++ offsets

mutual

/-- The lines of a node and of its body, one level further in. -/
def outlineToken (level : Int) : Token → List String
  | block inverted span body bodyStop =>
    outlineLine level (block inverted span body bodyStop) :: outlineTokens (level + 1) body
  | token => [outlineLine level token]

/-- The lines of some nodes. -/
def outlineTokens (level : Int) : List Token → List String
  | [] => []
  | token :: rest => outlineToken level token ++ outlineTokens level rest

end

/-- **The outline of a tree** whose nodes stand at a level. -/
def outline (tokens : List Token) (level : Int) : String :=
  "\n".intercalate (outlineTokens level tokens)

end Mustache.Token
