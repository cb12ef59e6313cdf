import Mustache.Template.Nest
import Mustache.Template.Reading
import Mustache.Template.Squash

/-!
**From a template to its tree.**

* `Reading.ofTemplate`: the reading of a template, or its first fault in the order of the source.
* `tokenize`: the tokens of a template, or its first fault.
* `parse`: the tree of a template, or its first fault.
* `parseWith`: the same, the delimiters given as a value; the empty template is read without looking
  at them.
-/

namespace Mustache

/-- The reading of a template, or its first fault with its place. -/
def Reading.ofTemplate (delimiters : Delimiters) (template : String) :
    Except SyntaxFault Reading :=
  match Reading.ofText delimiters template.toList with
  | .ok reading => .ok reading
  | .error (reason, position) => .error (.locate reason position (some template))

/-- **The tokens of a template**, or its first fault. -/
def tokenize (delimiters : Delimiters) (template : String) : Except SyntaxFault (List Token) :=
  (Reading.ofTemplate delimiters template).map fun reading => reading.tokens.toList

/-- The tree of tokens that have been read: standalone lines are stripped, adjacent texts are put
together, and blocks take their bodies. -/
def Token.arrange (stripped : List Nat) (tokens : List Token) : List Token :=
  (Token.nest? (Token.squash (Token.keep stripped tokens))).getD []

/-- **The tree of a template**, or its first fault. -/
def parse (delimiters : Delimiters) (template : String) : Except SyntaxFault (List Token) :=
  (Reading.ofTemplate delimiters template).map fun reading =>
    Token.arrange reading.stripped reading.tokens.toList

/-- The tree of a template; its delimiters are looked at only if it is not empty. -/
def parseWith (tags : Value) (template : String) : Except SyntaxFault (List Token) :=
  if template.isEmpty then .ok []
  else
    match Delimiters.read tags (some template) 0 with
    | .ok delimiters => parse delimiters template
    | .error fault => .error fault

end Mustache
