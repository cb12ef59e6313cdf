import Mustache.Text.Lines

/-!
**Faults of a template.**

A syntax fault says what is wrong with a template and where: an offset, and the line and column it
stands for.

* `SyntaxFault.Reason`: what can be wrong.
* `SyntaxFault.locate`: a fault at an offset of a template.
* `SyntaxFault.message`: the report of a fault.
-/

namespace Mustache

/-- What is wrong with a template. -/
inductive SyntaxFault.Reason where
  /-- A tag is not closed. -/
  | unclosedTag
  /-- A section ends that was not begun. -/
  | unopenedSection (name : String)
  /-- A section is begun and not ended. -/
  | unclosedSection (name : String)
  /-- A value, shown here, is no pair of delimiters. -/
  | invalidTags (shown : String)
  /-- A fault that a host reports in words of its own. -/
  | stated (words : String)
  deriving DecidableEq, Repr

/-- A fault of a template and its place. -/
structure SyntaxFault where
  reason : SyntaxFault.Reason
  position : Int
  place : Text.Place
  deriving DecidableEq, Repr

namespace SyntaxFault

/-- The words for a reason. -/
def Reason.message : Reason → String
  | unclosedTag => "Unclosed tag"
  | unopenedSection name => "Unopened section \"" ++ name ++ "\""
  | unclosedSection name => "Unclosed section \"" ++ name ++ "\""
  | invalidTags shown => "Invalid tags: " ++ shown
  | stated words => words

/-- **A fault at an offset**; without the template all of it counts as one line. -/
def locate (reason : Reason) (position : Int) (template : Option String) : SyntaxFault where
  reason := reason
  position := position
  place :=
    match template with
    | some text => Text.place text.toList position
    | none => ⟨1, position + 1⟩

/-- The report of a fault: the reason, the line and the column. -/
def message (fault : SyntaxFault) : String :=
  fault.reason.message ++ " at " ++ toString fault.place.line ++ ":" ++
    toString fault.place.column

end SyntaxFault

end Mustache
