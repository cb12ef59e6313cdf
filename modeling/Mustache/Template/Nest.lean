import Mustache.Template.Token

/-!
**Tokens as a tree.**

A block tag takes the tokens up to its closing tag as its body; comments and delimiter tags are
dropped, and so are the closing tags.

* `Token.nest?`: the tree; none if a closing tag closes nothing.
-/

namespace Mustache.Token

/-- A block that is still open: what stands before it in its surroundings, the latest token first,
and the block tag itself. -/
structure OpenBlock where
  earlier : List Token
  inverted : Bool
  span : Span
  bodyStop : Int

/-- The surroundings of an open block once it has a body, the latest token first. -/
def OpenBlock.finish (opened : OpenBlock) (body : List Token) (bodyStop : Int) :
    List Token :=
  .block opened.inverted opened.span body bodyStop :: opened.earlier

/-- The tree when no tokens are left: blocks that are still open keep what they have. -/
def finishAll : List OpenBlock → List Token → List Token
  | [], current => current.reverse
  | opened :: outer, current =>
    finishAll outer (opened.finish current.reverse opened.bodyStop)

/-- The tree of some tokens within open blocks, innermost first; the tokens collected so far in the
innermost of them come latest first. -/
def nestWithin : List OpenBlock → List Token → List Token → Option (List Token)
  | opened, current, [] => some (finishAll opened current)
  | opened, current, block inverted span _ bodyStop :: rest =>
    nestWithin (⟨current, inverted, span, bodyStop⟩ :: opened) [] rest
  | [], _, close _ :: _ => none
  | innermost :: outer, current, close span :: rest =>
    nestWithin outer (innermost.finish current.reverse span.start) rest
  | opened, current, comment _ :: rest => nestWithin opened current rest
  | opened, current, delimiters _ :: rest => nestWithin opened current rest
  | opened, current, token :: rest => nestWithin opened (token :: current) rest

/-- **The tree of some tokens**; none if a closing tag closes nothing. -/
def nest? (tokens : List Token) : Option (List Token) := nestWithin [] [] tokens

end Mustache.Token
