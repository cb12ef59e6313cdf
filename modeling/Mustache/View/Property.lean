import Mustache.Text.Digit
import Mustache.View.Access

/-!
**Properties of values.**

A property is an entry of a mapping, an item of a list under its index, or a public attribute of
anything else. Scalars count as having no properties when a name stands alone, but the last step of
a path may read an attribute of a scalar.

* `Value.hasProperty`: a structured value has a property.
* `Value.primitiveHasProperty`: a scalar has a public attribute.
* `Value.getProperty`: the property of a value, or no value.
-/

namespace Mustache.Value

/-- The greatest length that a list can be measured by. -/
def lengthLimit : Nat := Nat.pow 2 63 - 1

/-- **The index that a name denotes** in a list of a length: digits of any script, leading zeros
allowed, below the length. Digits that are not decimal, and too many digits, are faults, and so is a
length beyond all measure. -/
def listIndex? (length : Nat) (name : String) : Except Fault (Option Nat) :=
  let digits := name.toList
  if !Text.allDigits digits then .ok none
  else
    let decimals := digits.takeWhile fun char => (Text.decimalValue? char).isSome
    if NumeralFault.digitLimit < decimals.length then
      .error (.badNumeral (.tooLong decimals.length))
    else
      match Text.readDecimal? digits with
      | none => .error (.badNumeral (.notDigits 10 name))
      | some index =>
        if lengthLimit < length then .error .beyondBounds
        else .ok (if index < length then some index else none)

/-- A public name: not empty, and without an underscore at its start. -/
def isPublic (name : String) : Bool :=
  match name.toList with
  | [] => false
  | first :: _ => first != '_'

/-- Whether a structured value has a property. Nothing and scalars have none. -/
def hasProperty (access : Access) (value : Value) (name : String) : Except Fault Bool :=
  match value.opened with
  | null | missing => .ok false
  | bool _ | int _ _ | float _ | text _ | bytes _ => .ok false
  | mapping entries => .ok (valueUnder? name entries).isSome
  | items _ values => (listIndex? values.length name).map Option.isSome
  | range start stop step => (listIndex? (rangeLength start stop step) name).map Option.isSome
  | other =>
    if isPublic name then (access.read other name).map Option.isSome else .ok false

/-- Whether a scalar has a public attribute. -/
def primitiveHasProperty (access : Access) (value : Value) (name : String) : Except Fault Bool :=
  if value.isPrimitive && isPublic name then (access.read value name).map Option.isSome
  else .ok false

/-- The item of a list-like value that a name denotes, or no value. -/
def itemNamed (access : Access) (value : Value) (length : Nat) (name : String) :
    Except Fault Value :=
  match listIndex? length name with
  | .error fault => .error fault
  | .ok none => .ok null
  | .ok (some index) => access.item value index

/-- **The property of a value**, or no value if it has none. -/
def getProperty (access : Access) (value : Value) (name : String) : Except Fault Value :=
  match value.opened with
  | null | missing => .ok null
  | mapping entries => .ok ((valueUnder? name entries).getD null)
  | items form values => itemNamed access (items form values) values.length name
  | range start stop step =>
    itemNamed access (range start stop step) (rangeLength start stop step) name
  | other =>
    if isPublic name then (access.read other name).map fun found => found.getD null else .ok null

end Mustache.Value
