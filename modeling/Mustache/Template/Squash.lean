import Mustache.Template.Token

/-!
**Adjacent texts as one.**

* `Token.squash`: tokens where each run of adjacent texts is one text.
-/

namespace Mustache.Token

/-- Two adjacent texts as one: both contents, from the start of the first to the end of the
second. -/
def joinSpans (first second : Span) : Span :=
  ⟨first.value ++ second.value, first.start, second.stop⟩

/-- One more token behind squashed ones, the last of which comes first: if both are texts, the last
one takes it in. -/
def squashBehind (done : List Token) (token : Token) : List Token :=
  match done, token with
  | text last :: earlier, text next => text (joinSpans last next) :: earlier
  | done, token => token :: done

/-- **Tokens where each run of adjacent texts is one text.** -/
def squash (tokens : List Token) : List Token := (tokens.foldl squashBehind []).reverse

end Mustache.Token
