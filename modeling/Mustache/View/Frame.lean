import Mustache.Text.Lines
import Mustache.View.Host
import Mustache.View.Property

/-!
**Looking a name up.**

Views are stacked: each section may put a view on top, and a name is looked for from the top view
down to the root. A name with points in it is a path. A frame remembers what it found for each name,
misses included.

* `Value.walk`, `Value.ownProperty`: what a path and a single name lead to in one view.
* `Value.resolve`: what one view has for a name.
* `Frame.find`: what the nearest of several views has for a name.
* `Frame.lookup`: the same through the memory of the top frame.
* `Frame.Search`: the ways in which a frame may find a name.
* `Frame.settle`: computed values are called for their results.
-/

namespace Mustache

namespace Value

/-- Whether a name is a path: it holds a point, and not at its start. -/
def isPath (name : List Char) : Bool :=
  match name with
  | '.' :: _ => false
  | _ => name.contains '.'

/-- The segments of a path. -/
def segments (name : List Char) : List String := (Text.splitOn '.' name).map String.ofList

/-- Whether the last step of a path hits: the value reached has the property, be it structured or a
scalar. -/
def hasSegment (access : Access) (value : Value) (segment : String) : Except Fault Bool :=
  match value.hasProperty access segment with
  | .error fault => .error fault
  | .ok true => .ok true
  | .ok false => value.primitiveHasProperty access segment

/-- What a test and a reading come to, both of which are made in any case: what is read, if the test
hits. -/
def ifHit (test : Except Fault Bool) (reading : Except Fault Value) :
    Except Fault (Option Value) :=
  match test, reading with
  | .error fault, _ => .error fault
  | .ok _, .error fault => .error fault
  | .ok hit, .ok got => .ok (if hit then some got else none)

/-- What the end of a path holds, if the last step hits. A path leads nowhere past no value. -/
def walk (access : Access) : Value → List String → Except Fault (Option Value)
  | null, _ => .ok none
  | _, [] => .ok none
  | value, [segment] => ifHit (value.hasSegment access segment) (value.getProperty access segment)
  | value, segment :: rest =>
    match value.getProperty access segment with
    | .error fault => .error fault
    | .ok next => walk access next rest

/-- What a view holds under a single name, if it has that property. -/
def ownProperty (access : Access) (view : Value) (name : String) : Except Fault (Option Value) :=
  ifHit (view.hasProperty access name) (view.getProperty access name)

/-- **What one view has for a name**, a path or a single name; none if it has nothing for it. -/
def resolve (access : Access) (view : Value) (name : String) : Except Fault (Option Value) :=
  if isPath name.toList then view.walk access (segments name.toList)
  else view.ownProperty access name

end Value

/-- What a frame found for the names looked up in it. -/
abbrev Memo := List (String × Value)

namespace Frame

/-- **What the nearest view has for a name**, the top view first; missing if none has it. -/
def find (access : Access) (name : String) : List Value → Except Fault Value
  | [] => .ok .missing
  | view :: outer =>
    match view.resolve access name with
    | .error fault => .error fault
    | .ok (some value) => .ok value
    | .ok none => find access name outer

/-- How a frame finds a name: from its view, the outer views and its memory it gets the raw value,
and the memory after it. -/
abbrev Search := Value → List Value → Memo → String → Except Fault Value × Memo

/-- **The raw value of a name** in the frame of a view with outer views, and the memory after it.
The point names the view itself, and is never remembered; nor is a name whose search fails. -/
def lookup (access : Access) (view : Value) (outer : List Value) (memo : Memo) (name : String) :
    Except Fault Value × Memo :=
  if name = "." then (.ok view, memo)
  else
    match memo.lookup name with
    | some value => (.ok value, memo)
    | none =>
      match find access name (view :: outer) with
      | .error fault => (.error fault, memo)
      | .ok value => (.ok value, (name, value) :: memo)

/-- **The value a raw value stands for**: an accessor is called with the view of the frame, and any
other function or method without arguments; every other value stands for itself. -/
def settle {σ : Type} (host : Host σ) (view raw : Value) (state : σ) : Except Fault Value × σ :=
  match raw with
  | .accessor function => host.apply function [view] state
  | .function function => host.apply function [] state
  | .method receiver name => host.send receiver name state
  | value => (.ok value, state)

end Frame

end Mustache
