import Mustache.Fault
import Mustache.Number.Shortest
import Mustache.View.Value

/-!
**The text of a value.**

* `Value.shown`: the form of a value inside another one, where texts are quoted. What contains
  itself is shown inside itself by three points.
* `Value.displayed`: the form of a value on its own, where a text is itself.
* `Value.outputText`: what a variable tag writes: the displayed form, and the text that bytes
  encode.
-/

namespace Mustache.Value

/-! ### Parts -/

/-- Shown parts between brackets, separated by commas. -/
def bracketed (opening closing : String) (parts : List String) : String :=
  opening ++ ", ".intercalate parts ++ closing

/-- A range by its ends, and by its step if that is not one. -/
def rangeShown (start stop step : Int) : String :=
  let ends := toString start ++ ", " ++ toString stop
  "range(" ++ ends ++ (if step = 1 then "" else ", " ++ toString step) ++ ")"

/-- A clock by its distance and its name. -/
def zoneShown (zone : Zone) : String :=
  "datetime.timezone(" ++ Zone.measure zone.minutes ++ ", " ++ Text.quoted zone.name ++ ")"

/-- A day by its numbers. -/
def dateShown (date : Date) : String :=
  bracketed "datetime.date(" ")" ([date.year, date.month, date.day].map toString)

/-- A moment by its numbers, without zeros at the end of the time, and by its clock. -/
def momentShown (moment : Moment) : String :=
  let date := moment.date
  let fraction := if moment.microsecond = 0 then [] else [moment.microsecond]
  let seconds := if moment.second = 0 && fraction.isEmpty then [] else [moment.second]
  let numbers := [date.year, date.month, date.day, moment.hour, moment.minute]
  let zone := moment.zone.toList.map fun zone => "tzinfo=" ++ zoneShown zone
  bracketed "datetime.datetime(" ")" ((numbers ++ seconds ++ fraction).map toString ++ zone)

/-! ### Knots -/

/-- An item or an entry of one of a knot as it is shown: a text with what stands before it, or the
place of one of the knot. -/
structure KnotPart where
  label : String
  content : String ⊕ Nat

/-- One of a knot as it is shown: its brackets and its parts. -/
structure KnotBody where
  opening : String
  closing : String
  parts : List KnotPart

/-- The place that a part of one of a knot leads back to, or else its shown form. -/
def partShown : Value → String → String ⊕ Nat
  | back place, _ => .inr place
  | _, form => .inl form

/-- One of a knot with the others written out, through as many of them as there are. One that is
being written already is hinted at. -/
def knotShown (bodies : List KnotBody) : Nat → List Nat → Nat → String
  | 0, _, _ => ""
  | depth + 1, around, place =>
    match bodies[place]? with
    | none => ""
    | some body =>
      if around.contains place then body.opening ++ "..." ++ body.closing
      else
        bracketed body.opening body.closing (body.parts.map fun part =>
          part.label ++ match part.content with
            | .inl content => content
            | .inr other => knotShown bodies depth (place :: around) other)

/-! ### Values -/

mutual

/-- The form of a value inside another one. -/
def shown : Value → String
  | null => "None"
  | missing => "MISSING"
  | bool flag => if flag then "True" else "False"
  | int number _ => toString number
  | float number => number.text
  | text content => Text.quoted content
  | bytes content => "b" ++ Text.quotedBytes content
  | buffer content => "bytearray(b" ++ Text.quotedBytes content ++ ")"
  | items .list values => bracketed "[" "]" (shownItems values)
  | items (.row _ typeName) values => bracketed (typeName ++ "([") "])" (shownItems values)
  | items .tuple [value] => "(" ++ shown value ++ ",)"
  | items .tuple values => bracketed "(" ")" (shownItems values)
  | range start stop step => rangeShown start stop step
  | mapping entries => bracketed "\x7b" "\x7d" (shownEntries entries)
  | object attributes => bracketed "namespace(" ")" (shownAttributes attributes)
  | thing own => own.shown
  | function callee => callee.guise.text
  | accessor callee => "Accessor(" ++ callee.guise.text ++ ")"
  | sectionLambda callee => "SectionLambda(" ++ callee.guise.text ++ ")"
  | method receiver _ => "<method of " ++ shown receiver ++ ">"
  | date day => dateShown day
  | moment time => momentShown time
  | zone clock => zoneShown clock
  | knot bodies place => knotShown (shownBodies bodies) (bodies.length + 1) [] place
  | back _ => "..."

/-- The shown forms of some values. -/
def shownItems : List Value → List String
  | [] => []
  | value :: rest => shown value :: shownItems rest

/-- The shown forms of the entries of a mapping. -/
def shownEntries : List (Value × Value) → List String
  | [] => []
  | (key, value) :: rest => (shown key ++ ": " ++ shown value) :: shownEntries rest

/-- The shown forms of the attributes of an object. -/
def shownAttributes : List (String × Value) → List String
  | [] => []
  | (name, value) :: rest => (name ++ "=" ++ shown value) :: shownAttributes rest

/-- The shown forms of the lists and mappings of a knot. -/
def shownBodies : List Value → List KnotBody
  | [] => []
  | items _ values :: rest => ⟨"[", "]", shownKnotItems values⟩ :: shownBodies rest
  | mapping entries :: rest => ⟨"\x7b", "\x7d", shownKnotEntries entries⟩ :: shownBodies rest
  | _ :: rest => ⟨"", "", []⟩ :: shownBodies rest

/-- The shown forms of the items of a list of a knot. -/
def shownKnotItems : List Value → List KnotPart
  | [] => []
  | value :: rest => ⟨"", partShown value (shown value)⟩ :: shownKnotItems rest

/-- The shown forms of the entries of a mapping of a knot. -/
def shownKnotEntries : List (Value × Value) → List KnotPart
  | [] => []
  | (key, value) :: rest =>
    ⟨shown key ++ ": ", partShown value (shown value)⟩ :: shownKnotEntries rest

end

/-- The form of a value on its own. -/
def displayed : Value → String
  | text content => content
  | int _ (some guise) => guise.text
  | thing own => own.guise.text
  | date day => day.text
  | moment time => time.text " "
  | zone clock => clock.name
  | value => value.shown

/-! ### Writing -/

/-- The least whole number with more digits than are written. -/
def digitBound : Nat := Nat.pow 10 NumeralFault.digitLimit

mutual

/-- Whether all whole numbers in the shown form of a value have so few digits that they are
written. -/
def isWritable : Value → Bool
  | int number _ => number.natAbs < digitBound
  | items _ values => areWritable values
  | mapping entries => areWritableEntries entries
  | object attributes => areWritableAttributes attributes
  | range start stop step =>
    start.natAbs < digitBound && stop.natAbs < digitBound && step.natAbs < digitBound
  | knot bodies _ => areWritable bodies
  | _ => true

/-- Whether the whole numbers in some values are written. -/
def areWritable : List Value → Bool
  | [] => true
  | value :: rest => isWritable value && areWritable rest

/-- Whether the whole numbers in some entries are written. -/
def areWritableEntries : List (Value × Value) → Bool
  | [] => true
  | (key, value) :: rest => isWritable key && isWritable value && areWritableEntries rest

/-- Whether the whole numbers in some attributes are written. -/
def areWritableAttributes : List (String × Value) → Bool
  | [] => true
  | (_, value) :: rest => isWritable value && areWritableAttributes rest

end

/-- The form of a value on its own, unless a whole number in it has too many digits. -/
def written : Value → Except Fault String
  | int _ (some guise) => .ok guise.text
  | value => if value.isWritable then .ok value.displayed else .error .tooManyDigits

/-- **What a variable tag writes for a value**; bytes may encode no text, and whole numbers may have
too many digits. -/
def outputText : Value → Except Fault String
  | bytes content => (Text.Utf8.decode content).mapError .malformedText
  | value => value.written

end Mustache.Value
