import Mustache.Files.FileTree
import Mustache.Json.Reader
import Mustache.Text.Case
import Mustache.Yaml.Defect

/-!
**View data from a text or a file.**

View data are written in JSON or in YAML; which of the two a file holds is told by the ending of its
name. What the reader of YAML left behind before goes into the reading.

* `ViewData.ofText`: the value that a text in a format denotes.
* `ViewData.load`: the value that a file denotes.
-/

namespace Mustache.ViewData

/-- The format that is not JSON. -/
def yamlFormat : String := "yaml"

/-- The endings of the names of YAML files. -/
def yamlSuffixes : List String := [".yaml", ".yml"]

/-- The fault of a text with a defect, if a text cannot be read by another fault. -/
def faultOf (unreadable : Fault) : Yaml.Defect → Fault
  | .unusableKey => .wrongType
  | .beyondBounds => .beyondBounds
  | .malformed | .badNumeral _ | .badTime _ | .noCharacter => unreadable

/-- **The value that a text denotes.** Any format but YAML is read as JSON, and is named in the
report of a text that cannot be read. -/
def ofText {ρ : Type} (yaml : Yaml.Reader ρ) (left : ρ) (text format source : String) :
    Except Fault Value × ρ :=
  let unreadable : Fault := .load (.unreadableView source format)
  if format = yamlFormat then
    let (value, after) := yaml.read left text
    (value.mapError (faultOf unreadable), after)
  else
    match Json.read? text with
    | some value => (.ok value, left)
    | none => (.error unreadable, left)

/-- The format of a file. -/
def formatOf (path : Path) : String :=
  if yamlSuffixes.contains (Text.lower path.suffix) then yamlFormat else "json"

/-- **The value that a file denotes.** -/
def load {ρ : Type} (yaml : Yaml.Reader ρ) (left : ρ) (tree : FileTree) (path : Path) :
    Except Fault Value × ρ :=
  match tree.isFile path with
  | .error fault => (.error fault, left)
  | .ok false => (.error (.load (.viewNotFound path.text)), left)
  | .ok true =>
    match tree.readText path with
    | .ok text => ofText yaml left text (formatOf path) path.text
    | .error fault => (.error fault, left)

end Mustache.ViewData
