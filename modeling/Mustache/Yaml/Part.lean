import Mustache.View.Value

/-!
**Values under construction.**

A list or a mapping is begun empty and filled later, so that it may become part of itself. Until all
are filled, a part of a value is given by the number of its cell.

* `Part`, `Cell`: a part of a value, and a list or a mapping of parts.
* `Part.key`: the key that a part makes.
* `Part.value`: the value of a part once all cells are filled.
-/

namespace Mustache.Yaml

/-- A part of a value: a value of its own, or a list or mapping by the number of its cell. -/
inductive Part where
  | whole (value : Value)
  | cell (number : Nat)
  deriving Inhabited

/-- A list or a mapping, as far as it is filled. -/
inductive Cell where
  | list (items : List Part)
  | mapping (entries : List (Value × Part))
  deriving Inhabited

/-! ### Keys -/

/-- What a part is worth as a key. -/
inductive KeyPart where
  | key (value : Value)
  /-- A list that holds lists or mappings. -/
  | unusable
  | mapping

/-- The values of parts, if none of them is a list or a mapping. -/
def wholeParts? : List Part → Option (List Value)
  | [] => some []
  | .whole value :: rest => (wholeParts? rest).map (value :: ·)
  | .cell _ :: _ => none

/-- **The key that a part makes.** A list makes a tuple of what it holds so far. -/
def Part.key (cells : Array Cell) : Part → KeyPart
  | whole value => .key value
  | cell number =>
    match cells.getD number default with
    | .mapping _ => .mapping
    | .list items =>
      match wholeParts? items with
      | some values => .key (.tuple values)
      | none => .unusable

/-- A float that is no number. -/
def isNaN : Value → Bool
  | .float number => number.isNaN
  | _ => false

/-- Whether two scalars are the same key. A text has one thing only that is no number, and this is
the same as itself. -/
def sameScalar (first second : Value) : Bool :=
  (isNaN first && isNaN second) || Value.sameKey first second

/-- **Whether two keys are the same**: scalars, or tuples of scalars. -/
def sameKeyPart : Value → Value → Bool
  | .items _ first, .items _ second =>
    first.length == second.length &&
      (first.zip second).all fun (one, other) => sameScalar one other
  | first, second => sameScalar first second

/-- Whether entries have a key. -/
def hasKey (key : Value) (entries : List (Value × Part)) : Bool :=
  entries.any fun entry => sameKeyPart entry.1 key

/-- Entries with a part stored under a key: in the key's place if it is there already, at the end if
not. -/
def insertPart (key : Value) (part : Part) : List (Value × Part) → List (Value × Part)
  | [] => [(key, part)]
  | (known, old) :: rest =>
    if sameKeyPart known key then (known, part) :: rest
    else (known, old) :: insertPart key part rest

/-! ### Knots -/

/-- What is known of a cell: nothing, that its value is being looked for, its value, or that it
contains itself or something that does. -/
inductive CellMark where
  | unknown
  | underway
  | plain (value : Value)
  | knotted
  deriving Inhabited

/-- What is known of the cells. -/
abbrev Survey := StateM (Array CellMark)

/-- All of some results, if there are all. -/
def allOf? {α : Type} : List (Option α) → Option (List α)
  | [] => some []
  | none :: _ => none
  | some first :: rest => (allOf? rest).map (first :: ·)

/-- **The value of a cell**, unless it contains itself or something that does. As many steps as
cells are enough. -/
def survey (cells : Array Cell) : Nat → Nat → Survey (Option Value)
  | 0, _ => return none
  | steps + 1, number => do
    let valueOf (part : Part) : Survey (Option Value) :=
      match part with
      | .whole value => return some value
      | .cell other => survey cells steps other
    match (← get).getD number default with
    | .plain value => return some value
    | .underway | .knotted => return none
    | .unknown =>
      modify fun marks => marks.setIfInBounds number .underway
      let found ← match cells.getD number default with
        | .list items => do
          let values ← items.mapM valueOf
          pure ((allOf? values).map Value.list)
        | .mapping entries => do
          let values ← entries.mapM fun entry => do
            let value ← valueOf entry.2
            pure (value.map fun value => (entry.1, value))
          pure ((allOf? values).map Value.mapping)
      let mark := match found with
        | some value => CellMark.plain value
        | none => .knotted
      modify fun marks => marks.setIfInBounds number mark
      return found

/-- A part inside a knot of some cells. -/
def tied (marks : Array CellMark) (knot : List Nat) : Part → Value
  | .whole value => value
  | .cell number =>
    match marks.getD number default with
    | .plain value => value
    | _ => .back (knot.idxOf number)

/-- A list or a mapping inside a knot of some cells. -/
def tiedCell (marks : Array CellMark) (knot : List Nat) : Cell → Value
  | .list items => .list (items.map (tied marks knot))
  | .mapping entries => .mapping (entries.map fun entry => (entry.1, tied marks knot entry.2))

/-- The cells that contain themselves or something that does. -/
def knotOf (marks : Array CellMark) : List Nat :=
  (List.range marks.size).filter fun number => match marks.getD number default with
    | .knotted => true
    | _ => false

/-- **The value of a part** once all cells are filled. -/
def Part.value (cells : Array Cell) : Part → Value
  | whole value => value
  | cell number =>
    let (found, marks) :=
      (survey cells (cells.size + 1) number).run (Array.replicate cells.size .unknown)
    match found with
    | some value => value
    | none =>
      let knot := knotOf marks
      .knot (knot.map fun other => tiedCell marks knot (cells.getD other default))
        (knot.idxOf number)

end Mustache.Yaml
