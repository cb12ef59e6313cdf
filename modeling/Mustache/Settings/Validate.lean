import Mustache.Fault
import Mustache.Files.Path
import Mustache.Render.Config
import Mustache.Text.Case

/-!
**Settings.**

Settings are the delimiters, the escape, where partials are, and whether parsed templates are
cached. They are read from a mapping; every entry that does not fit is complained about.

* `RenderSettings`: the settings.
* `RenderSettings.ofValue`: the settings a mapping describes, or all complaints about it.
* `RenderSettings.config`: the configuration of a rendering with the settings.
-/

namespace Mustache

/-- Delimiters, whether variables are escaped, where partials are and how their names end, and
whether parsed templates are cached. -/
structure RenderSettings where
  tags : Delimiters := .standard
  escaped : Bool := true
  partialsDir : Option Path := none
  partialExtension : String := ".mustache"
  cache : Bool := true

namespace Settings

/-- The result of reading one entry: what it describes, or complaints. -/
abbrev Reading (α : Type) := Except (List Complaint) α

/-- One complaint. -/
def complain {α : Type} (location : String) (problem : Problem) : Reading α :=
  .error [⟨location, problem⟩]

/-! ### Texts -/

/-- A text, or the text that bytes encode. -/
def readText (location : String) (value : Value) : Reading String :=
  match value with
  | .text content => .ok content
  | .bytes content | .buffer content =>
    match Text.Utf8.decode content with
    | .ok text => .ok text
    | .error _ => complain location .malformedText
  | _ => complain location .notText

/-! ### Delimiters -/

/-- The text at a place of a pair, or the complaint that it is missing or no text. -/
def readPart (index : Nat) (pair : Value) : Reading String :=
  let location := "tags." ++ toString index
  match pair.listItem? index with
  | none => complain location .missing
  | some value => readText location value

/-- Two texts as delimiters; neither may be empty. -/
def readPair (opening closing : String) : Reading Delimiters :=
  match Delimiters.ofPair? opening closing with
  | some delimiters => .ok delimiters
  | none => complain "tags" .emptyDelimiter

/-- The delimiters that a list of two texts describes. A list that is too long has no other
complaint. -/
def readTags (value : Value) : Reading Delimiters :=
  match value.listLength? with
  | none => complain "tags" .notPair
  | some length =>
    if 2 < length then complain "tags" .tooLong
    else
      match readPart 0 value, readPart 1 value with
      | .ok opening, .ok closing => readPair opening closing
      | .error first, .error second => .error (first ++ second)
      | .error first, .ok _ => .error first
      | .ok _, .error second => .error second

/-! ### The other entries -/

/-- Whether variables are escaped: one of two words. -/
def readEscape (value : Value) : Reading Bool :=
  match value with
  | .text "html" => .ok true
  | .text "none" => .ok false
  | _ => complain "escape" .notChoice

/-- A path, or no path. -/
def readPath (value : Value) : Reading (Option Path) :=
  match value with
  | .null => .ok none
  | .text content => .ok (some (Path.ofText content))
  | _ => complain "partials_dir" .notPath

/-- The words for yes. -/
def yesWords : List String := ["1", "t", "true", "y", "yes", "on"]

/-- The words for no. -/
def noWords : List String := ["0", "f", "false", "n", "no", "off"]

/-- A truth value in words. -/
def readWord (word : String) : Reading Bool :=
  if yesWords.contains (Text.lower word) then .ok true
  else if noWords.contains (Text.lower word) then .ok false
  else complain "cache" .unreadableBoolean

/-- The whole numbers that are looked at where a truth value is wanted: those of 64 bits. -/
def isSwitchNumber (number : Int) : Bool :=
  -(Nat.pow 2 63 : Int) ≤ number && number < Nat.pow 2 63

/-- A truth value, or a number or a word that stands for one. -/
def readSwitch (value : Value) : Reading Bool :=
  match value with
  | .bool flag => .ok flag
  | .int number _ =>
    if number = 0 then .ok false
    else if number = 1 then .ok true
    else complain "cache" (if isSwitchNumber number then .unreadableBoolean else .notBoolean)
  | .float number =>
    if number.isZero then .ok false
    else if number = .one then .ok true
    else complain "cache" .notBoolean
  | .text content => readWord content
  | .bytes content =>
    match Text.Utf8.decode content with
    | .ok text => readWord text
    | .error _ => complain "cache" .unreadableBoolean
  | _ => complain "cache" .notBoolean

/-- The text by which a key that is no text is reported. -/
def keyText (key : Value) : String :=
  match key with
  | .bool flag => if flag then "1" else "0"
  | .int number _ => toString number
  | other => other.shown

/-- The keys that count. -/
def knownKeys : List String := ["tags", "escape", "partials_dir", "partial_ext", "cache"]

/-- The complaint about a key that does not count, if it does not. -/
def keyComplaint? (key : Value) : Option Complaint :=
  match key with
  | .text name => if knownKeys.contains name then none else some ⟨name, .unknownKey⟩
  | other => some ⟨keyText other, .unnamedKey⟩

/-- The complaints of a reading. -/
def complaintsOf {α : Type} : Reading α → List Complaint
  | .ok _ => []
  | .error complaints => complaints

/-- An entry read if it is there; else a default. -/
def readEntry {α : Type} (value : Value) (name : String) (read : Value → Reading α)
    (fallback : α) : Reading α :=
  match value.mappingValue? name with
  | some entry => read entry
  | none => .ok fallback

end Settings

namespace RenderSettings

open Settings

/-- The settings that the entries of a mapping describe, or all complaints about them. -/
def ofEntries (value : Value) (keys : List Value) : Settings.Reading RenderSettings :=
  let fallback : RenderSettings := {}
  let tags := readEntry value "tags" readTags fallback.tags
  let escaped := readEntry value "escape" readEscape fallback.escaped
  let directory := readEntry value "partials_dir" readPath fallback.partialsDir
  let ending := readEntry value "partial_ext" (readText "partial_ext") fallback.partialExtension
  let cache := readEntry value "cache" readSwitch fallback.cache
  let unknown := keys.filterMap keyComplaint?
  match tags, escaped, directory, ending, cache, unknown with
  | .ok tags, .ok escaped, .ok directory, .ok ending, .ok cache, [] =>
    .ok ⟨tags, escaped, directory, ending, cache⟩
  | _, _, _, _, _, _ =>
    .error (complaintsOf tags ++ complaintsOf escaped ++ complaintsOf directory ++
      complaintsOf ending ++ complaintsOf cache ++ unknown)

/-- **The settings a mapping describes**, or all complaints about it. -/
def ofValue (value : Value) : Settings.Reading RenderSettings :=
  match value with
  | .mapping entries => ofEntries value (entries.map Prod.fst)
  | _ => complain "" .notMapping

/-- The escape of the settings. -/
def escape (settings : RenderSettings) : Escape :=
  if settings.escaped then .standard else .none

/-- **The configuration of a rendering with the settings.** -/
def config (settings : RenderSettings) : RenderConfig where
  tags := some (.checked settings.tags)
  escape := some settings.escape

end RenderSettings

end Mustache
