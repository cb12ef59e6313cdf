import Mustache.Yaml.Token

/-!
**Nodes of YAML.**

A document is a node: a scalar, a list or a mapping. Nodes have numbers, since one node may be part
of several others, and even of itself. Which tokens make up a node depends on whether it stands
between brackets, where only collections in brackets may stand, and on whether it is the key or the
value of an entry, where the items of a list need no indentation of their own.

* `Node`, `Nodes`: a node, and numbered nodes with the names of some.
* `Composing`: the tokens that remain, and the nodes so far.
* `Composing.document?`: the number of the node of a document.
-/

namespace Mustache.Yaml

/-- A node. What a plain scalar means depends on its text; any other scalar is a text. Items, keys
and values are given by their numbers. -/
inductive Node where
  | plain (content : String)
  | text (content : String)
  | list (items : Array Nat)
  /-- Entries, and whether some of them were merged into the mapping. -/
  | mapping (entries : Array (Nat × Nat)) (hasMerged : Bool)
  deriving Repr, Inhabited

/-- A node that is left out. -/
def Node.absent : Node := plain ""

/-- Nodes by their numbers, and the numbers of those that have names. -/
structure Nodes where
  all : Array Node := #[]
  names : List (String × Nat) := []

namespace Nodes

/-- The node with a number. -/
def get (nodes : Nodes) (number : Nat) : Node := nodes.all.getD number Node.absent

/-- Another node under a number. -/
def set (nodes : Nodes) (number : Nat) (node : Node) : Nodes :=
  { nodes with all := nodes.all.setIfInBounds number node }

/-- One more node, under a name if it has one. A name belongs to the last node it was given to. -/
def add (nodes : Nodes) (name : Option String) (node : Node) : Nodes where
  all := nodes.all.push node
  names := match name with
    | some name => (name, nodes.all.size) :: nodes.names
    | none => nodes.names

/-- The number of entries of all mappings. -/
def entryCount (nodes : Nodes) : Nat :=
  nodes.all.foldl
    (fun count node => match node with
      | .mapping entries _ => count + entries.size
      | _ => count) 0

end Nodes

/-- Where a node stands. -/
inductive Position where
  | inBrackets
  | inList
  | inMapping
  deriving DecidableEq, Repr

/-- The tokens that remain, why no more of them were read, and the nodes so far. -/
structure ComposeState where
  tokens : List Token
  defect : Defect
  nodes : Nodes

/-- A step from tokens to nodes. Nodes made before a step fails are kept. -/
abbrev Composing := EStateM Defect ComposeState

namespace Composing

/-! ### Tokens -/

/-- The next token. -/
def peek : Composing Token := fun state =>
  match state.tokens with
  | token :: _ => .ok token state
  | [] => .error state.defect state

/-- The next token is used up. -/
def advance : Composing Unit :=
  modify fun state => { state with tokens := state.tokens.drop 1 }

/-- A token that has to come next. -/
def expect (token : Token) : Composing Unit := do
  if (← peek) == token then advance else throw .malformed

/-! ### Nodes -/

/-- One more node, and its number. -/
def add (name : Option String) (node : Node) : Composing Nat :=
  modifyGet fun state => (state.nodes.all.size, { state with nodes := state.nodes.add name node })

/-- A node that is left out, which may have a name. -/
def addAbsent (name : Option String) : Composing Nat := add name Node.absent

/-- One more item of a list. -/
def addItem (number item : Nat) : Composing Unit :=
  modify fun state =>
    match state.nodes.get number with
    | .list items => { state with nodes := state.nodes.set number (.list (items.push item)) }
    | _ => state

/-- One more entry of a mapping. -/
def addEntry (number key value : Nat) : Composing Unit :=
  modify fun state =>
    match state.nodes.get number with
    | .mapping entries hasMerged =>
      let longer := Node.mapping (entries.push (key, value)) hasMerged
      { state with nodes := state.nodes.set number longer }
    | _ => state

/-- The number of the node with a name. -/
def named (name : String) : Composing Nat := do
  match (← get).nodes.names.lookup name with
  | some number => return number
  | none => throw .malformed

/-! ### Collections -/

/-- Whether a part of an entry by indentation is left out before a token. -/
def isAbsentBefore : Token → Bool
  | .key | .value | .blockEnd => true
  | _ => false

/-- Whether a node between brackets is left out before a token. -/
def isAbsentInBrackets : Token → Bool
  | .comma | .closeBracket | .closeBrace => true
  | _ => false

/-- The comma between two items or entries, unless the closing bracket follows. -/
def separate (isFirst : Bool) (closing : Token) : Composing Unit := do
  if !isFirst && (← peek) != closing then expect .comma

mutual

/-- A node, found in at most so many steps, and its number. -/
def node (position : Position) : Nat → Composing Nat
  | 0 => throw .malformed
  | steps + 1 => do
    match ← peek with
    | .alias name =>
      advance
      named name
    | .anchor name =>
      advance
      content position (some name) steps
    | _ => content position none steps
termination_by structural steps => steps

/-- A node behind its name, if it has one. A node with a name may be left out. -/
def content (position : Position) (name : Option String) : Nat → Composing Nat
  | 0 => throw .malformed
  | steps + 1 => do
    let token ← peek
    match token with
    | .plain content =>
      advance
      add name (.plain content)
    | .quoted content =>
      advance
      add name (.text content)
    | .openBracket =>
      advance
      let number ← add name (.list #[])
      bracketItems number true steps
      return number
    | .openBrace =>
      advance
      let number ← add name (.mapping #[] false)
      braceEntries number true steps
      return number
    | _ =>
      if token == .item && position == .inMapping then
        let number ← add name (.list #[])
        looseItems number steps
        return number
      else if token == .listStart && position != .inBrackets then
        advance
        let number ← add name (.list #[])
        blockItems number steps
        return number
      else if token == .mappingStart && position != .inBrackets then
        advance
        let number ← add name (.mapping #[] false)
        blockEntries number steps
        return number
      else if name.isSome then addAbsent name
      else throw .malformed
termination_by structural steps => steps

/-- The items of a list by indentation up to its end. -/
def blockItems (number : Nat) : Nat → Composing Unit
  | 0 => throw .malformed
  | steps + 1 => do
    if (← peek) == .blockEnd then advance
    else
      expect .item
      let next ← peek
      let item ←
        if next == .item || next == .blockEnd then addAbsent none else node .inList steps
      addItem number item
      blockItems number steps
termination_by structural steps => steps

/-- The items of a list that has no indentation of its own. -/
def looseItems (number : Nat) : Nat → Composing Unit
  | 0 => throw .malformed
  | steps + 1 => do
    if (← peek) == .item then
      advance
      let next ← peek
      let item ←
        if next == .item || isAbsentBefore next then addAbsent none else node .inList steps
      addItem number item
      looseItems number steps
termination_by structural steps => steps

/-- The key or the value of an entry by indentation, which may be left out. -/
def blockPart : Nat → Composing Nat
  | 0 => throw .malformed
  | steps + 1 => do
    if isAbsentBefore (← peek) then addAbsent none else node .inMapping steps
termination_by structural steps => steps

/-- The entries of a mapping by indentation up to its end. A value without a key has an empty
one. -/
def blockEntries (number : Nat) : Nat → Composing Unit
  | 0 => throw .malformed
  | steps + 1 => do
    let next ← peek
    if next == .blockEnd then advance
    else
      let key ←
        if next == .value then addAbsent none
        else do
          expect .key
          blockPart steps
      let value ←
        if (← peek) == .value then do
          advance
          blockPart steps
        else addAbsent none
      addEntry number key value
      blockEntries number steps
termination_by structural steps => steps

/-- The key of an entry between brackets, which may be left out. -/
def bracketKey : Nat → Composing Nat
  | 0 => throw .malformed
  | steps + 1 => do
    let next ← peek
    if next == .value || isAbsentInBrackets next then addAbsent none
    else node .inBrackets steps
termination_by structural steps => steps

/-- The value of an entry between brackets, if a colon is there. -/
def bracketValue : Nat → Composing Nat
  | 0 => throw .malformed
  | steps + 1 => do
    if (← peek) == .value then
      advance
      if isAbsentInBrackets (← peek) then addAbsent none else node .inBrackets steps
    else addAbsent none
termination_by structural steps => steps

/-- The items of a list between brackets up to the closing bracket. An item with a colon is a
mapping of one entry. -/
def bracketItems (number : Nat) (isFirst : Bool) : Nat → Composing Unit
  | 0 => throw .malformed
  | steps + 1 => do
    separate isFirst .closeBracket
    let next ← peek
    if next == .closeBracket then advance
    else if next == .key then
      advance
      let pair ← add none (.mapping #[] false)
      let key ← bracketKey steps
      let value ← bracketValue steps
      addEntry pair key value
      addItem number pair
      bracketItems number false steps
    else
      let item ← node .inBrackets steps
      addItem number item
      bracketItems number false steps
termination_by structural steps => steps

/-- The entries of a mapping between braces up to the closing brace. An entry without a colon has no
value, and a colon may follow an empty key. -/
def braceEntries (number : Nat) (isFirst : Bool) : Nat → Composing Unit
  | 0 => throw .malformed
  | steps + 1 => do
    separate isFirst .closeBrace
    let next ← peek
    if next == .closeBrace then advance
    else
      let key ←
        if next == .key then do
          advance
          bracketKey steps
        else if next == .value then addAbsent none
        else node .inBrackets steps
      let value ←
        if next == .key || next == .value then bracketValue steps else addAbsent none
      addEntry number key value
      braceEntries number false steps
termination_by structural steps => steps

end

/-! ### Documents -/

/-- **The node of a document**, if there is one. A document may end with a mark, and has to be the
only one. Names hold within a document. -/
def document? : Composing (Option Nat) := do
  let first ← peek
  if first == .textEnd then return none
  if first == .documentStart then advance
  let steps := 4 * (← get).tokens.length + 4
  let next ← peek
  let isEmpty := first == .documentStart &&
    (next == .documentStart || next == .documentEnd || next == .textEnd)
  let root ← if isEmpty then addAbsent none else node .inList steps
  let hasMark := (← peek) == .documentEnd
  if hasMark then advance
  modify fun state => { state with nodes := { state.nodes with names := [] } }
  expect .textEnd
  return some root

end Composing

end Mustache.Yaml
