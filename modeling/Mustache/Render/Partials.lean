import Mustache.Render.Note
import Mustache.Text.Lines
import Mustache.View.Display
import Mustache.View.Host

/-!
**Partials.**

A partial is a template that other templates include by name. It is found in a table or by asking,
and where it stands alone on a line it is indented like its tag.

* `Partials`: where partials are found.
* `Partials.inTable?`: the partial of a name in a table.
* `indentPartial`: a partial indented like its tag.
-/

namespace Mustache

/-- What a look-up by asking answers: a text, or none, or a fault; notes, the latest last; and the
state of the host. -/
structure PartialReply (σ : Type) where
  text : Except Fault (Option String)
  notes : List Note
  state : σ

/-- Where partials are found. -/
inductive Partials (σ : Type) where
  | absent
  | table (entries : List (String × Value))
  | lookup (ask : String → σ → PartialReply σ)

/-- **The partial of a name in a table.** If there is none, or an empty one, what stands under the
name with the closing delimiter behind it is taken; the delimiter is looked at only then. -/
def Partials.inTable? (entries : List (String × Value)) (closing : Except Fault String)
    (name : String) : Except Fault (Option Value) :=
  match (entries.lookup name).filter Value.isTruthy with
  | some value => .ok (some value)
  | none => closing.map fun closing => entries.lookup (name ++ closing)

/-- One line of a partial with an indentation before it, unless it is empty. -/
def indentLine (indentation line : List Char) : List Char :=
  if line.isEmpty then line else indentation ++ line

/-- The lines of a partial with an indentation before each that is not empty; the first line is left
as it is where the line of the tag holds text already. -/
def indentLines (indentation : List Char) (hasNonBlank : Bool) :
    List (List Char) → List (List Char)
  | [] => []
  | first :: rest =>
    (if hasNonBlank then first else indentLine indentation first) ::
      rest.map (indentLine indentation)

/-- The spaces and tabs of an indentation. -/
def spacesAndTabs (indentation : List Char) : List Char :=
  indentation.filter fun char => char == ' ' || char == '\t'

/-- **A partial indented like its tag.** -/
def indentPartial (text indentation : String) (hasNonBlank : Bool) : String :=
  let lines := Text.splitLines text.toList
  String.ofList
    (Text.joinLines (indentLines (spacesAndTabs indentation.toList) hasNonBlank lines))

end Mustache
