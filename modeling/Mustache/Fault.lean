import Mustache.Calendar.Date
import Mustache.Number.Numeral
import Mustache.Settings.Complaint
import Mustache.Template.SyntaxFault
import Mustache.Text.Utf8

/-!
**Faults.**

Everything that can stop a parse, a rendering or a loading, as its cause.

* `LoadFault`: why settings or view data could not be loaded.
* `Fault`: any fault.
* `Fault.message`: its report.
-/

namespace Mustache

/-- Why settings or view data could not be loaded. -/
inductive LoadFault where
  | settingsNotFound (path : String)
  | invalidYaml (path : String)
  | notMapping (path typeName : String)
  | invalidSettings (path : String) (complaints : List Settings.Complaint)
  | viewNotFound (path : String)
  | unreadableView (source format : String)
  deriving DecidableEq, Repr

/-- The report of a fault in loading, as far as it is the loader's own. -/
def LoadFault.message : LoadFault → String
  | settingsNotFound path => "Settings file not found: " ++ path
  | invalidYaml path => path ++ ": invalid YAML:"
  | notMapping path typeName =>
    path ++ ": expected mapping at top level, got " ++ typeName
  | invalidSettings path complaints => path ++ ": " ++ Settings.complaintHeading complaints
  | viewNotFound path => "View file not found: " ++ path
  | unreadableView source format => source ++ ": cannot parse " ++ format ++ " view:"

/-- A fault. -/
inductive Fault where
  | syntaxFault (fault : SyntaxFault)
  /-- The template is no text but of another type. -/
  | templateType (typeName : String)
  /-- A higher-order section was met without the text of its body. -/
  | rawBodyMissing
  /-- A fault raised by a host function or lookup. -/
  | user (words : String)
  | unsupportedConfig (typeName : String)
  | load (fault : LoadFault)
  | invalidSettings (complaints : List Settings.Complaint)
  /-- A value was used as what it is not, or called with the wrong arguments. -/
  | wrongType
  /-- A mapping was asked for a key that it lacks. -/
  | keyMissing
  /-- Something was taken from where nothing is left. -/
  | nothingLeft
  /-- A text that looks like a number denotes none. -/
  | badNumeral (fault : NumeralFault)
  /-- A text that looks like a day or a time denotes none. -/
  | badTime (fault : TimeFault)
  /-- An escape has the number of no character. -/
  | noCharacter
  /-- A whole number has more digits than are written. -/
  | tooManyDigits
  /-- A number or a day is beyond all bounds. -/
  | beyondBounds
  | malformedText (fault : Text.Utf8.Malformed)
  | fileNotFound
  | isDirectory
  | notDirectory
  /-- The name of a file is longer than names can be. -/
  | nameTooLong
  /-- The name of a file to be written holds the character zero. -/
  | zeroInName
  /-- The help of a command cannot be put together. -/
  | brokenHelp
  /-- Partials or callbacks are nested beyond all measure. -/
  | tooDeep
  deriving DecidableEq, Repr

namespace Fault

/-- The message of a raw body that is missing. -/
def rawBodyMessage : String := "Cannot use higher-order sections without the original template"

/-- The message of a template that is no text. -/
def templateTypeMessage (typeName : String) : String :=
  "Invalid template! Template should be a \"string\" but \"" ++ typeName ++
    "\" was given as the first argument for mustache#render(template, view, partials)"

/-- The message of an escape that has the number of no character. -/
def noCharacterMessage : String := "chr() arg not in range(0x110000)"

/-- The message of a whole number with more digits than are written. -/
def tooManyDigitsMessage : String :=
  "Exceeds the limit (" ++ toString NumeralFault.digitLimit ++ " digits) for integer string " ++
    "conversion; use sys.set_int_max_str_digits() to increase the limit"

/-- The report of a fault, if it has one. -/
def message? : Fault → Option String
  | syntaxFault fault => some fault.message
  | templateType typeName => some (templateTypeMessage typeName)
  | rawBodyMissing => some rawBodyMessage
  | user words => some words
  | unsupportedConfig typeName => some ("Unsupported render config: " ++ typeName)
  | load fault => some fault.message
  | invalidSettings complaints => some (Settings.complaintHeading complaints)
  | badNumeral fault => some fault.message
  | badTime fault => some fault.message
  | noCharacter => some noCharacterMessage
  | tooManyDigits => some tooManyDigitsMessage
  | malformedText fault => some fault.message
  | zeroInName => some "embedded null byte"
  | wrongType | keyMissing | nothingLeft | beyondBounds | fileNotFound | isDirectory
  | notDirectory | nameTooLong | brokenHelp | tooDeep => none

end Fault

end Mustache
