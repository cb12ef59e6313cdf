import Mustache.View.Frame

/-!
**A tree of frames.**

Frames can be kept, pushed upon more than once, and looked up in at any time; the views of the
frames can change meanwhile.

* `FrameTree`: frames, each with its view, its parent and its memory.
* `FrameTree.push`, `FrameTree.lookup`, `FrameTree.store`: a new frame, a look-up, and a change of
  the view of a frame.
-/

namespace Mustache

/-- A frame: its view, the place of its parent, and what it found so far. -/
structure FrameNode where
  view : Value
  parent : Option Nat
  memo : Memo
  deriving Inhabited

/-- Frames in the order in which they were made. -/
structure FrameTree where
  frames : List FrameNode

namespace FrameTree

/-- The tree of a root frame. -/
def root (view : Value) : FrameTree := ⟨[⟨view, none, []⟩]⟩

/-- The number of frames. -/
def size (tree : FrameTree) : Nat := tree.frames.length

/-- The views from a frame to the root. A parent is made before its children, so the places get
smaller on the way. -/
def views (frames : List FrameNode) (place : Nat) : List Value :=
  match frames[place]? with
  | none => []
  | some frame =>
    match frame.parent with
    | none => [frame.view]
    | some parent => if parent < place then frame.view :: views frames parent else [frame.view]
termination_by place

/-- A frame pushed upon another one; it is the last of the tree. -/
def push (tree : FrameTree) (parent : Nat) (view : Value) : FrameTree :=
  ⟨tree.frames ++ [⟨view, some parent, []⟩]⟩

/-- The view of a frame. -/
def view (tree : FrameTree) (place : Nat) : Value := (tree.frames.getD place default).view

/-- **A look-up in a frame**, and the tree and the state of the host after it. -/
def lookup {σ : Type} (host : Host σ) (tree : FrameTree) (place : Nat) (name : String)
    (state : σ) : Except Fault Value × FrameTree × σ :=
  let frame := tree.frames.getD place default
  let outer := (views tree.frames place).drop 1
  match Frame.lookup host.access frame.view outer frame.memo name with
  | (.error fault, _) => (.error fault, tree, state)
  | (.ok raw, memo) =>
    let remembered := ⟨tree.frames.set place { frame with memo := memo }⟩
    match Frame.settle host frame.view raw state with
    | (result, after) => (result, remembered, after)

/-- A value stored under a key in the view of a frame; the memories stay as they are. -/
def store (tree : FrameTree) (place : Nat) (key : String) (value : Value) : FrameTree :=
  let frame := tree.frames.getD place default
  ⟨tree.frames.set place { frame with view := frame.view.withEntry key value }⟩

end FrameTree

end Mustache
