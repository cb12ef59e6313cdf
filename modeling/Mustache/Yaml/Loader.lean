import Mustache.Yaml.Node
import Mustache.Yaml.Part
import Mustache.Yaml.Schema

/-!
**Reading YAML.**

The value of a document is that of its root. Lists and mappings are begun where they are met and
filled afterwards, round by round, but keys are made at once. A mapping may merge other mappings
into itself; its own entries count before merged ones, and without merged ones no key may occur
twice. The key of an entry may be a list of scalars, which becomes a tuple, but no mapping.

A loader reads one text after another. A text that denotes no value leaves behind what was begun,
and the next one goes on with it.

* `Loader`: what is left behind.
* `Loading.build`: the part of a value that a node makes.
* `Loader.load`: the value a text denotes, and what is left behind.
* `reader`: loaders as readers of YAML.
-/

namespace Mustache.Yaml

/-- How far the value of a node is made. While it is underway, a part stands for it where it is met
again. -/
inductive Progress where
  | untouched
  | underway (part : Part)
  | done (part : Part)
  deriving Inhabited

/-- What loading leaves behind: nodes and how far their values are made, cells, nodes whose cells
are yet to be filled, and whether cells are filled where they are begun. -/
structure Loader where
  nodes : Nodes := {}
  progress : Array Progress := #[]
  cells : Array Cell := #[]
  pending : List (Nat × Nat) := []
  atOnce : Bool := false

/-- A step of loading. What was done before a step fails stays done. -/
abbrev Loading := EStateM Defect Loader

namespace Loading

/-! ### Changes -/

/-- How far the value of a node is made. -/
def progressOf (number : Nat) : Loading Progress := do
  return (← get).progress.getD number default

/-- The value of a node is made so far. -/
def advance (number : Nat) (progress : Progress) : Loading Unit :=
  modify fun loader => { loader with progress := loader.progress.setIfInBounds number progress }

/-- Whether cells are filled where they are begun, from here on. -/
def setAtOnce (atOnce : Bool) : Loading Unit :=
  modify fun loader => { loader with atOnce := atOnce }

/-- One more cell, and its number. -/
def newCell (cell : Cell) : Loading Nat :=
  modifyGet fun loader => (loader.cells.size, { loader with cells := loader.cells.push cell })

/-- A cell filled. -/
def setCell (number : Nat) (cell : Cell) : Loading Unit :=
  modify fun loader => { loader with cells := loader.cells.setIfInBounds number cell }

/-- A cell that is to be filled from a node later on. -/
def postpone (number cell : Nat) : Loading Unit :=
  modify fun loader => { loader with pending := loader.pending ++ [(number, cell)] }

/-- The node with a number. -/
def nodeOf (number : Nat) : Loading Node := do return (← get).nodes.get number

/-- Another node under a number. -/
def setNode (number : Nat) (node : Node) : Loading Unit :=
  modify fun loader => { loader with nodes := loader.nodes.set number node }

/-! ### Merging -/

/-- The sign under which mappings are merged. -/
def isMergeSign : Node → Bool
  | .plain "<<" => true
  | _ => false

/-- The sign for a default value is a text where it is a key. -/
def settleSign (number : Nat) : Loading Unit := do
  match ← nodeOf number with
  | .plain "=" => setNode number (.text "=")
  | _ => pure ()

/-- The entries of a mapping. -/
def entriesOf (number : Nat) : Loading (Array (Nat × Nat)) := do
  match ← nodeOf number with
  | .mapping entries _ => return entries
  | _ => throw .malformed

/-- Other entries for a mapping. -/
def setEntries (number : Nat) (entries : Array (Nat × Nat)) (hasMore : Bool) : Loading Unit := do
  match ← nodeOf number with
  | .mapping _ hasMerged => setNode number (.mapping entries (hasMerged || hasMore))
  | _ => throw .malformed

/-- The entries from one on up to the next one that merges something, with the number of entries
passed. -/
def passUnmerged (entries : List (Nat × Nat)) : Loading Nat := do
  match entries with
  | [] => return 0
  | (key, _) :: rest =>
    if isMergeSign (← nodeOf key) then return 0
    settleSign key
    return (← passUnmerged rest) + 1

/-- **A mapping takes in the entries it merges**, from an entry on and with those found so far. They
come before its own ones, and only one entry may merge something. The mapping merged may merge
others in turn; in a list of mappings earlier ones count before later ones. Every step does away
with an entry that merges something. -/
def flatten : Nat → (number start : Nat) → (merged : Array (Nat × Nat)) → Loading Unit
  | 0, _, _, _ => throw .malformed
  | steps + 1, number, start, merged => do
    let entries ← entriesOf number
    let place := start + (← passUnmerged (entries.toList.drop start))
    match entries[place]? with
    | none => if !merged.isEmpty then setEntries number (merged ++ entries) true
    | some (_, source) =>
      if !merged.isEmpty then throw .malformed
      setEntries number (entries.eraseIdxIfInBounds place) false
      let found ← match ← nodeOf source with
        | .mapping _ _ => do
          flatten steps source 0 #[]
          entriesOf source
        | .list items => do
          let groups ← items.mapM fun item => do
            let _ ← entriesOf item
            flatten steps item 0 #[]
            entriesOf item
          pure groups.reverse.flatten
        | _ => throw .malformed
      flatten steps number place found

/-! ### Values -/

/-- The value of a plain scalar; the signs for mappings have none. -/
def plainValue (content : String) : Loading Value :=
  match Plain.read content with
  | .ok (.value value) => pure value
  | .ok _ => throw .malformed
  | .error defect => throw defect

/-- An empty cell for a list or a mapping. -/
def emptyCell : Node → Cell
  | .mapping _ _ => .mapping []
  | _ => .list []

/-- One more entry of a mapping that is being filled. A key that is there already is a fault in a
mapping without merged entries. -/
def store (hasMerged : Bool) (key : KeyPart) (part : Part) (stored : List (Value × Part)) :
    Loading (List (Value × Part)) :=
  match key with
  | .mapping => throw .malformed
  | .unusable => throw .unusableKey
  | .key value =>
    if !hasMerged && hasKey value stored then throw .malformed
    else pure (insertPart value part stored)

mutual

/-- **The part of a value that a node makes**; as a key it is made at once with all that belongs to
it. A list or a mapping that is underway already is met again as the one it is. As many steps as
nodes are enough. -/
def build (isKey : Bool) : Nat → Nat → Loading Part
  | 0, _ => throw .malformed
  | steps + 1, number => do
    match ← progressOf number with
    | .done part => return part
    | progress =>
      let before := (← get).atOnce
      if isKey then setAtOnce true
      if let .underway part := progress then return part
      advance number (.underway (.whole .null))
      let part ← match ← nodeOf number with
        | .plain content => do pure (Part.whole (← plainValue content))
        | .text content => pure (.whole (.text content))
        | node => do
          let cell ← newCell (emptyCell node)
          if (← get).atOnce then
            advance number (.underway (.cell cell))
            fill steps number cell
          else postpone number cell
          pure (.cell cell)
      advance number (.done part)
      if isKey then setAtOnce before
      return part

/-- The cell of a node is filled. -/
def fill : Nat → (number cell : Nat) → Loading Unit
  | 0, _, _ => throw .malformed
  | steps + 1, number, cell => do
    match ← nodeOf number with
    | .list items =>
      let parts ← items.toList.mapM (build false steps)
      setCell cell (.list parts)
    | _ =>
      flatten ((← get).nodes.entryCount + 1) number 0 #[]
      match ← nodeOf number with
      | .mapping entries hasMerged =>
        let stored ← entries.toList.foldlM (fun stored entry => do
          let key := (← build true steps entry.1).key (← get).cells
          if let .mapping := key then throw .malformed
          let part ← build false steps entry.2
          store hasMerged key part stored) []
        setCell cell (.mapping stored)
      | _ => throw .malformed

end

/-- All cells are filled that are yet to be filled, round by round. -/
def fillAll (steps : Nat) : Nat → Loading Unit
  | 0 => throw .malformed
  | rounds + 1 => do
    let pending := (← get).pending
    if !pending.isEmpty then
      modify fun loader => { loader with pending := [] }
      for (number, cell) in pending do fill steps number cell
      fillAll steps rounds

/-- The value of a root. -/
def valueOf (root : Nat) : Loading Value := do
  let count := (← get).nodes.all.size
  let missing := count - (← get).progress.size
  modify fun loader =>
    { loader with progress := loader.progress ++ Array.replicate missing .untouched }
  let steps := 2 * count + 2
  let part ← build false steps root
  fillAll steps (count + (← get).pending.length + 1)
  return part.value (← get).cells

end Loading

namespace Loader

/-- **The value a text denotes**, or why it denotes none, and what is left behind: nothing after a
value was found, and what there was before if there is no document. -/
def load (loader : Loader) (text : String) : Except Defect Value × Loader :=
  if !text.toList.all isAllowed then (.error .malformed, loader)
  else
    let lexed := Lexed.ofText text
    match Composing.document?.run ⟨lexed.tokens, lexed.defect, loader.nodes⟩ with
    | .error defect state => (.error defect, { loader with nodes := state.nodes })
    | .ok none _ => (.ok .null, loader)
    | .ok (some root) state =>
      match (Loading.valueOf root).run { loader with nodes := state.nodes } with
      | .ok value _ => (.ok value, {})
      | .error defect left => (.error defect, left)

end Loader

/-- **Loaders as readers of YAML.** -/
def reader : Reader Loader := ⟨Loader.load⟩

end Mustache.Yaml
