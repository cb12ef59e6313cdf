import Mustache.Number.Numeral
import Mustache.View.Value

/-!
**What readers of YAML answer.**

Settings and view data may be written in YAML. What reads them is given to whatever loads them.

* `Defect`: why a text denotes no value.
* `Reader`: a reader of YAML.
-/

namespace Mustache.Yaml

/-- Why a text denotes no value. -/
inductive Defect where
  /-- It is not YAML, or its entries do not make up a mapping. -/
  | malformed
  /-- It has the shape of a number but denotes none. -/
  | badNumeral (fault : NumeralFault)
  /-- It has the shape of a day or a moment but denotes none. -/
  | badTime (fault : TimeFault)
  /-- An escape has the number of no character. -/
  | noCharacter
  /-- A number or a moment is beyond all bounds. -/
  | beyondBounds
  /-- A key holds a list or a mapping. -/
  | unusableKey
  deriving DecidableEq, Repr

/-- **A reader of YAML.** A text that it reads may leave something behind, with which it goes on to
the next one. -/
structure Reader (ρ : Type) where
  read : ρ → String → Except Defect Value × ρ

end Mustache.Yaml
