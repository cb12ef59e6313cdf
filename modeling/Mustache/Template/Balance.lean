import Mustache.Template.SyntaxFault
import Mustache.Template.Token

/-!
**Balanced sections.**

Each closing tag ends the innermost open section and names it exactly.

* `Token.openAfter`: the sections open after some tokens, or the first closing tag that fits none.
-/

namespace Mustache.Token

/-- **The sections open after some tokens**, innermost first, when some are open before them; or the
first closing tag that does not end the innermost open section. -/
def openAfter (opened : List Span) : List Token → Except (SyntaxFault.Reason × Int) (List Span)
  | [] => .ok opened
  | block _ span _ _ :: rest => openAfter (span :: opened) rest
  | close span :: rest =>
    match opened with
    | [] => .error (.unopenedSection span.value, span.start)
    | innermost :: outer =>
      if innermost.value = span.value then openAfter outer rest
      else .error (.unclosedSection innermost.value, span.start)
  | _ :: rest => openAfter opened rest

end Mustache.Token
