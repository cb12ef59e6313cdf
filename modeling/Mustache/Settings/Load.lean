import Mustache.Files.FileTree
import Mustache.Settings.Validate
import Mustache.Yaml.Defect

/-!
**Settings from a file.**

A settings file is a YAML mapping; an empty one leaves everything as it is. Where partials are is
told as seen from the directory of the file. What the reader of YAML left behind before goes into
the reading.

* `RenderSettings.load`: the settings that a file describes.
-/

namespace Mustache.RenderSettings

/-- The settings with the directory of partials as seen from another directory. -/
def seenFrom (settings : RenderSettings) (directory : Path) : RenderSettings :=
  { settings with partialsDir := settings.partialsDir.map directory.join }

/-- The settings that the value of a file describes. A value that is not truthy stands for an empty
mapping. -/
def ofDocument (path : Path) (value : Value) : Except Fault RenderSettings :=
  let described := if value.isTruthy then value.opened else .mapping []
  match described with
  | .mapping _ =>
    match ofValue described with
    | .ok settings => .ok (settings.seenFrom path.parent)
    | .error complaints => .error (.load (.invalidSettings path.text complaints))
  | other => .error (.load (.notMapping path.text other.typeName))

/-- The fault of a file with a defect. -/
def faultOf (path : Path) : Yaml.Defect → Fault
  | .malformed => .load (.invalidYaml path.text)
  | .badNumeral fault => .badNumeral fault
  | .badTime fault => .badTime fault
  | .noCharacter => .noCharacter
  | .beyondBounds => .beyondBounds
  | .unusableKey => .wrongType

/-- **The settings that a file describes.** -/
def load {ρ : Type} (yaml : Yaml.Reader ρ) (left : ρ) (tree : FileTree) (path : Path) :
    Except Fault RenderSettings × ρ :=
  match tree.isFile path with
  | .error fault => (.error fault, left)
  | .ok false => (.error (.load (.settingsNotFound path.text)), left)
  | .ok true =>
    match tree.readStream path with
    | .error fault => (.error fault, left)
    | .ok text =>
      let (value, after) := yaml.read left text
      ((value.mapError (faultOf path)).bind (ofDocument path), after)

end Mustache.RenderSettings
