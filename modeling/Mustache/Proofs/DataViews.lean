import Mustache.Proofs.Throughout

/-!
**Views of data.**

A view of data holds no function, and its numbers are shown by their digits; of the objects of the
host some count as data. Where a host keeps to data, whatever a name leads to in such views is data
again, or a method of data; and what such a method answers is data as well. So a section never comes
to have a function for its value.

* `Value.isData`: data.
* `isDatum`, `isData_eq`: data pass a test **throughout**.
* `isDatum_lenient`, `isDatum_uncalled`: which is lenient, and nothing that can be called passes it.
* `kind_data`: the roles of data.
-/

namespace Mustache

namespace Value

/-- A list or a mapping, as each of a knot is. -/
def isContainer : Value → Bool
  | items _ _ => true
  | mapping _ => true
  | _ => false

variable (things : Thing → Bool)

mutual

/-- **Data**: no function is in it, whole numbers are shown by their digits, and objects of the host
are among those that count as data. The keys of mappings do not matter, as no name leads to them. -/
def isData : Value → Bool
  | int _ shown => shown.isNone
  | items _ values => areData values
  | mapping entries => areDataEntries entries
  | object attributes => areDataAttributes attributes
  | thing own => things own
  | knot bodies _ => bodies.all isContainer && areData bodies
  | function _ => false
  | accessor _ => false
  | sectionLambda _ => false
  | method _ _ => false
  | _ => true

/-- Some values are data. -/
def areData : List Value → Bool
  | [] => true
  | value :: rest => isData value && areData rest

/-- The values of some entries are data. -/
def areDataEntries : List (Value × Value) → Bool
  | [] => true
  | (_, value) :: rest => isData value && areDataEntries rest

/-- Some attributes are data. -/
def areDataAttributes : List (String × Value) → Bool
  | [] => true
  | (_, value) :: rest => isData value && areDataAttributes rest

end

/-- What tells data apart: no function or method, no number with a text of its own, no other object
of the host, and nothing but lists and mappings in a knot. -/
def isDatum : Value → Bool
  | int _ shown => shown.isNone
  | thing own => things own
  | knot bodies _ => bodies.all isContainer
  | function _ | accessor _ | sectionLambda _ | method _ _ => false
  | _ => true

mutual

/-- **Data pass that test throughout.** -/
theorem isData_eq : (value : Value) → value.isData things = value.throughout (isDatum things)
  | items _ values => areData_eq values
  | mapping entries => areDataEntries_eq entries
  | object attributes => areDataAttributes_eq attributes
  | knot bodies _ => congrArg (bodies.all isContainer && ·) (areData_eq bodies)
  | null | missing | bool _ | int _ _ | float _ | text _ | bytes _ | buffer _ | range _ _ _ => rfl
  | thing _ => rfl
  | function _ | accessor _ | sectionLambda _ | method _ _ => rfl
  | date _ | moment _ | zone _ | back _ => rfl

theorem areData_eq : (values : List Value) →
    areData things values = allThroughout (isDatum things) values
  | [] => rfl
  | value :: rest => by
    rw [areData, allThroughout, isData_eq value, areData_eq rest]

theorem areDataEntries_eq : (entries : List (Value × Value)) →
    areDataEntries things entries = entriesThroughout (isDatum things) entries
  | [] => rfl
  | (_, value) :: rest => by
    rw [areDataEntries, entriesThroughout, isData_eq value, areDataEntries_eq rest]

theorem areDataAttributes_eq : (attributes : List (String × Value)) →
    areDataAttributes things attributes = attributesThroughout (isDatum things) attributes
  | [] => rfl
  | (_, value) :: rest => by
    rw [areDataAttributes, attributesThroughout, isData_eq value, areDataAttributes_eq rest]

end

variable {things}

theorem isDatum_lenient : Lenient (isDatum things) where
  plain {value} plain := by
    cases value with
    | int number shown =>
      cases shown with
      | none => rfl
      | some own => cases plain
    | object _ | thing _ | function _ | accessor _ | sectionLambda _ | method _ _ | knot _ _ =>
      cases plain
    | _ => rfl
  accessor := nofun
  sectionLambda := nofun
  knot := id

theorem isDatum_uncalled (value : Value) (callable : value.isCallable = true) :
    value.isDatum things = false := by
  cases value with
  | function _ | accessor _ | sectionLambda _ | method _ _ => rfl
  | _ => cases callable

/-- The items of data. -/
theorem isData_listItems? {value : Value} (data : value.isData things = true) :
    ∀ item ∈ value.listItems?.getD [], item.isData things = true := by
  rw [isData_eq] at data
  intro item member
  rw [isData_eq]
  exact throughout_listItems? isDatum_lenient.closed data item member

/-- **The roles of data**: there is no function among them. -/
theorem kind_data {value : Value} (data : value.isData things = true) :
    value.kind ≠ .accessor ∧ value.kind ≠ .sectionLambda :=
  kind_of_uncalled isDatum_uncalled isDatum_lenient.closed
    ((isData_eq things value).symm.trans data)

end Value

end Mustache
