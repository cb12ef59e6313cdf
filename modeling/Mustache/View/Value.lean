import Mustache.Calendar.Moment
import Mustache.Number.Binary64

/-!
**The values a view is made of.**

A view holds data (scalars, lists, mappings, objects) and functions of the host. Host functions, and
objects of the host's own classes, are known only by a handle, so that a value is plain data; what
they do is the host's business. A list or a mapping may contain itself, and is then one of a knot:
each of the knot is written down once, and the others point back to it.

* `Value`: the values.
* `Value.opened`: a value whose own items or entries can be seen.
* `Value.kind`: the role a value plays in rendering.
* `Value.isTruthy`: whether a section is rendered for it.
* `Value.listLength?`, `Value.listItem?`, `Value.listItems?`: the one view of all list-like values.
* `Value.mappingValue?`, `Value.withEntry`: reading and writing a mapping.
-/

namespace Mustache

/-- How a list-like value was made: a plain list, a fixed tuple, or a sequence of a class of the
host, which is known by a handle. -/
inductive ListForm where
  | list
  | tuple
  | row (handle : Nat) (typeName : String)
  deriving DecidableEq, Repr

/-- What a value of a class of the host goes by: the name of the class, and its own text. -/
structure Guise where
  typeName : String
  text : String
  deriving DecidableEq, Repr, Inhabited

/-- A function of the host: the handle it is called by, the name of its class with the text it is
shown by, and the number of arguments it takes. -/
structure HostFunction where
  handle : Nat
  guise : Guise
  arity : Nat
  deriving DecidableEq, Repr, Inhabited

/-- Whether a function takes so many arguments. -/
def HostFunction.takes (function : HostFunction) (count : Nat) : Bool := function.arity == count

/-- An object of a class of the host: the handle it is known by, the name of its class with its
text, the form it has inside other values, and whether it counts as true. What attributes it has is
the host's business. -/
structure Thing where
  handle : Nat
  guise : Guise
  shown : String
  truthy : Bool
  deriving DecidableEq, Repr, Inhabited

/-- A value of a view. -/
inductive Value where
  /-- No value, stated. -/
  | null
  /-- No value found. -/
  | missing
  | bool (flag : Bool)
  /-- A whole number; one of a class of the host is shown by a text of its own. -/
  | int (number : Int) (guise : Option Guise)
  | float (number : Binary64)
  | text (content : String)
  | bytes (content : List UInt8)
  /-- A buffer of bytes, which counts neither as a scalar nor as a list. -/
  | buffer (content : List UInt8)
  | items (form : ListForm) (items : List Value)
  | range (start stop step : Int)
  /-- Keys and values in the order of their first insertion. -/
  | mapping (entries : List (Value × Value))
  /-- A plain object, which has no other attributes than those it was given. -/
  | object (attributes : List (String × Value))
  | thing (thing : Thing)
  | function (function : HostFunction)
  /-- A computed property: its function is called with a view. -/
  | accessor (function : HostFunction)
  /-- A higher-order section: its function is called with a raw body and a render callback. -/
  | sectionLambda (function : HostFunction)
  /-- An attribute that is called on the value that has it. -/
  | method (receiver : Value) (name : String)
  | date (date : Date)
  | moment (moment : Moment)
  | zone (zone : Zone)
  /-- A list or a mapping of a knot: all lists and mappings of the knot, and the place of this one
  among them. -/
  | knot (bodies : List Value) (place : Nat)
  /-- Inside a knot, the list or mapping at a place of it. -/
  | back (place : Nat)
  deriving Repr, Inhabited

namespace Value

/-- A whole number shown by its digits. -/
abbrev ofInt (number : Int) : Value := int number none

/-- A plain list. -/
abbrev list (values : List Value) : Value := items .list values

/-- A tuple. -/
abbrev tuple (values : List Value) : Value := items .tuple values

/-! ### Knots -/

/-- An item or an entry of one of a knot, as it is seen from outside the knot. -/
def seenFrom (bodies : List Value) : Value → Value
  | back place => knot bodies place
  | value => value

/-- **A value whose own items or entries can be seen**: of a knot, the list or the mapping that is
meant, and no value if there is none at its place; any other value as it is. -/
def opened : Value → Value
  | knot bodies place =>
    match bodies.getD place null with
    | items form values => items form (values.map (seenFrom bodies))
    | mapping entries => mapping (entries.map fun entry => (entry.1, seenFrom bodies entry.2))
    | _ => null
  | value => value

/-! ### Kinds -/

/-- The role of a value in rendering. -/
inductive Kind where
  | missing
  | null
  | boolean
  | number
  | string
  | list
  | object
  | accessor
  | sectionLambda
  deriving DecidableEq, Repr

/-- The role of a value: whatever can be called without being a higher-order section is an
accessor, and whatever has no other role is an object. -/
def kind (value : Value) : Kind :=
  match value.opened with
  | null => .null
  | missing => .missing
  | bool _ => .boolean
  | int _ _ => .number
  | float _ => .number
  | text _ => .string
  | bytes _ => .string
  | buffer _ => .object
  | items _ _ => .list
  | range _ _ _ => .list
  | mapping _ => .object
  | object _ => .object
  | function _ => .accessor
  | accessor _ => .accessor
  | sectionLambda _ => .sectionLambda
  | method _ _ => .accessor
  | thing _ | date _ | moment _ | zone _ | knot _ _ | back _ => .object

/-- Texts, bytes, truth values and numbers have no entries, only attributes of their own. -/
def isPrimitive : Value → Bool
  | bool _ | int _ _ | float _ | text _ | bytes _ => true
  | _ => false

/-- A number; truth values are none. -/
def isNumber (value : Value) : Bool := value.kind == .number

/-- No value, stated or not found. -/
def isNothing : Value → Bool
  | null | missing => true
  | _ => false

/-! ### Lists -/

/-- The number of steps from a start to before a stop. -/
def rangeLength (start stop step : Int) : Nat :=
  if 0 < step then if start < stop then ((stop - start - 1) / step + 1).toNat else 0
  else if step < 0 then if stop < start then ((start - stop - 1) / -step + 1).toNat else 0
  else 0

/-- The length of a list-like value. -/
def listLength? (value : Value) : Option Nat :=
  match value.opened with
  | items _ values => some values.length
  | range start stop step => some (rangeLength start stop step)
  | _ => none

/-- An item of a list-like value. -/
def listItem? (value : Value) (index : Nat) : Option Value :=
  match value.opened with
  | items _ values => values[index]?
  | range start stop step =>
    if index < rangeLength start stop step then some (ofInt (start + index * step)) else none
  | _ => none

/-- All items of a list-like value. -/
def listItems? (value : Value) : Option (List Value) :=
  match value.opened with
  | items _ values => some values
  | range start stop step =>
    some ((List.range (rangeLength start stop step)).map fun (index : Nat) =>
      ofInt (start + index * step))
  | _ => none

/-! ### Truth -/

/-- **Whether a section is rendered for a value**: nothing, `false`, zero and whatever is empty are
not truthy. -/
def isTruthy (value : Value) : Bool :=
  match value.opened with
  | null | missing => false
  | bool flag => flag
  | int number _ => number != 0
  | float number => !number.isZero
  | text content => !content.isEmpty
  | bytes content | buffer content => !content.isEmpty
  | items _ values => !values.isEmpty
  | range start stop step => rangeLength start stop step != 0
  | mapping entries => !entries.isEmpty
  | thing own => own.truthy
  | object _ | function _ | accessor _ | sectionLambda _ | method _ _ => true
  | date _ | moment _ | zone _ | knot _ _ | back _ => true

/-! ### Mappings -/

/-- The whole number a key counts as: truth values and whole floats are equal to their numbers. -/
def keyNumber? : Value → Option Int
  | bool flag => some (if flag then 1 else 0)
  | int number _ => some number
  | float number => number.toInt?
  | _ => none

/-- Whether two ranges hold the same numbers. -/
def sameRange (first second : Int × Int × Int) : Bool :=
  let (start, stop, step) := first
  let (begin, finish, stride) := second
  let length := rangeLength start stop step
  length == rangeLength begin finish stride &&
    (length == 0 || (start == begin && (length == 1 || step == stride)))

mutual

/-- Whether two keys are the same. -/
def sameKey : Value → Value → Bool
  | null, null => true
  | missing, missing => true
  | text first, text second => first == second
  | bytes first, bytes second => first == second
  | items .tuple first, items .tuple second => sameKeys first second
  | range start stop step, range begin finish stride =>
    sameRange (start, stop, step) (begin, finish, stride)
  | date first, date second => first == second
  | moment first, moment second => first.same second
  | first, second =>
    match keyNumber? first, keyNumber? second with
    | some left, some right => left == right
    | none, none =>
      match first, second with
      | float left, float right => left == right && !left.isNaN
      | _, _ => false
    | _, _ => false

/-- Whether two lists of keys are the same, key by key. -/
def sameKeys : List Value → List Value → Bool
  | [], [] => true
  | first :: others, second :: rest => sameKey first second && sameKeys others rest
  | _, _ => false

end

/-- The value under a text key of some entries. -/
def valueUnder? (name : String) : List (Value × Value) → Option Value
  | [] => none
  | (text key, value) :: rest => if key = name then some value else valueUnder? name rest
  | _ :: rest => valueUnder? name rest

/-- Entries with a value stored under a key: in the key's place if it is there already, at the end
if not. -/
def insertEntry (key value : Value) : List (Value × Value) → List (Value × Value)
  | [] => [(key, value)]
  | (known, old) :: rest =>
    if sameKey known key then (known, value) :: rest else (known, old) :: insertEntry key value rest

/-- A mapping built by storing entries one after another. -/
def mappingOf (entries : List (Value × Value)) : Value :=
  mapping (entries.foldl (fun stored entry => insertEntry entry.1 entry.2 stored) [])

/-- The value under a text key of a mapping. -/
def mappingValue? (value : Value) (name : String) : Option Value :=
  match value.opened with
  | mapping entries => valueUnder? name entries
  | _ => none

/-- A mapping with a value stored under a text key; any other value as it is. -/
def withEntry : Value → String → Value → Value
  | mapping entries, name, value => mapping (insertEntry (text name) value entries)
  | other, _, _ => other

/-- The attribute of an object. -/
def attribute? (name : String) : List (String × Value) → Option Value
  | [] => none
  | (key, value) :: rest => if key = name then some value else attribute? name rest

/-! ### Type names -/

/-- The name by which a value's type is reported. -/
def typeName (value : Value) : String :=
  match value.opened with
  | null => "NoneType"
  | missing => "_Missing"
  | bool _ => "bool"
  | int _ none => "int"
  | int _ (some guise) => guise.typeName
  | float _ => "float"
  | text _ => "str"
  | bytes _ => "bytes"
  | buffer _ => "bytearray"
  | items .list _ => "list"
  | items .tuple _ => "tuple"
  | items (.row _ typeName) _ => typeName
  | range _ _ _ => "range"
  | mapping _ => "dict"
  | object _ => "SimpleNamespace"
  | thing own => own.guise.typeName
  | function own => own.guise.typeName
  | accessor _ => "Accessor"
  | sectionLambda _ => "SectionLambda"
  | method (accessor _) _ => "method"
  | method _ _ => "builtin_function_or_method"
  | date _ => "date"
  | moment _ => "datetime"
  | zone _ => "timezone"
  | knot _ _ | back _ => "object"

end Value

end Mustache
