import Mustache.Render.Escape
import Mustache.Template.Delimiters

/-!
**Configuration of a rendering.**

A rendering may be given delimiters and an escape; what is not given takes a default.

* `TagChoice`: delimiters, checked or yet to be checked.
* `RenderConfig`: what a rendering was given.
* `ConfigSource`, `RenderConfig.coerce`: the forms in which it can be given.
* `RenderConfig.withDefaults`: the gaps filled.
-/

namespace Mustache

/-- Delimiters that have been checked, or a value that has not. -/
inductive TagChoice where
  | checked (delimiters : Delimiters)
  | unchecked (tags : Value)

namespace TagChoice

/-- The delimiters of a choice, or the fault that it is no pair. -/
def resolve : TagChoice → Except SyntaxFault Delimiters
  | checked delimiters => .ok delimiters
  | unchecked tags => Delimiters.read tags none 0

/-- The closing delimiter as it was given: the second of two or more. -/
def closing : TagChoice → Except Fault String
  | checked delimiters => .ok delimiters.closing
  | unchecked tags =>
    match tags.listItem? 1 with
    | some (.text closing) => .ok closing
    | some _ => .error .wrongType
    | none => .error .nothingLeft

/-- The choice as a value. -/
def toValue : TagChoice → Value
  | checked delimiters => delimiters.toValue
  | unchecked tags => tags

end TagChoice

/-- The delimiters and the escape a rendering was given. -/
structure RenderConfig where
  tags : Option TagChoice := none
  escape : Option Escape := none

/-- The forms of a configuration: a value, a mapping whose escape is one of the host, or a
configuration made before. -/
inductive ConfigSource where
  | value (value : Value)
  | mapping (tags : Value) (escape : Option Escape)
  | ready (config : RenderConfig)

namespace RenderConfig

/-- Delimiters from a value, or the fault that it is no pair. -/
def ofTags (tags : Value) (escape : Option Escape) : Except Fault RenderConfig :=
  match Delimiters.read tags none 0 with
  | .ok delimiters => .ok ⟨some (.checked delimiters), escape⟩
  | .error fault => .error (.syntaxFault fault)

/-- The escape that a value stands for. No value gives none, and a value that counts as false the
standard one; any other value cannot be asked to escape a text. -/
def escapeOf : Value → Option Escape
  | .null => none
  | value => some (if value.isTruthy then .custom "" fun _ => .error .wrongType else .standard)

/-- A configuration from the two entries of a mapping that count; the delimiters may be left out. -/
def ofEntries (tags : Value) (escape : Option Escape) : Except Fault RenderConfig :=
  match tags with
  | .null => .ok ⟨none, escape⟩
  | tags => ofTags tags escape

/-- **A configuration from any of its forms.** No value is the empty configuration; texts, bytes and
lists are taken for delimiters, and of a mapping two entries count. -/
def coerce : ConfigSource → Except Fault RenderConfig
  | .ready config => .ok config
  | .mapping tags escape => ofEntries tags escape
  | .value value =>
    let entry := fun (name : String) => (value.mappingValue? name).getD .null
    match value with
    | .null => .ok {}
    | .mapping _ => ofEntries (entry "tags") (escapeOf (entry "escape"))
    | .text _ | .bytes _ | .buffer _ | .items _ _ | .range _ _ _ => ofTags value none
    | other => .error (.unsupportedConfig other.typeName)

/-- **A configuration with its gaps filled**; default delimiters are checked only where they fill a
gap. -/
def withDefaults (config : RenderConfig) (tags : Value) (escape : Option Escape) :
    Except Fault RenderConfig :=
  let escape := config.escape.orElse fun _ => escape
  match config.tags with
  | some choice => .ok ⟨some choice, escape⟩
  | none => ofTags tags escape

/-- The delimiters in force: two braces where none are given. -/
def resolvedTags (config : RenderConfig) : TagChoice :=
  config.tags.getD (.checked .standard)

/-- The escape in force: the standard one where none is given. -/
def resolvedEscape (config : RenderConfig) : Escape := config.escape.getD .standard

end RenderConfig

end Mustache
