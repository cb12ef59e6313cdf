import Mustache.View.FrameTree
import Mustache.View.Recipe

/-!
**Frames whose views change.**

Frames are pushed, names are looked up and values are stored in the views, in any order. What a
frame found for a name first is what it goes by from then on, whatever is stored meanwhile; the
memories of other frames do not matter to it, nor does its own to them.

* `FrameTree.Operation`, `FrameTree.run`: what can be done with a tree of frames.
* `FrameTree.firstFound?`: the value that the first search for a name came to.
* `memo_step`, `memo_run`: **a memory holds the first values that were found.**
* `views_lookup`, `lookup_elsewhere`: a look-up leaves the other frames as they are.
* `view_step`, `view_run`: views change by what is stored in them.
* `lookup_run`: **the main statement.**
-/

namespace Mustache

/-- What a search gets to see of a frame: its view, and its parent. -/
def FrameNode.seen (frame : FrameNode) : Value × Option Nat := (frame.view, frame.parent)

namespace FrameTree

variable {σ : Type}

/-! ### Runs -/

/-- The memory of a frame. -/
def memo (tree : FrameTree) (place : Nat) : Memo := (tree.frames.getD place default).memo

/-- What the views have for a name as they stand, from a frame to the root. -/
def search (access : Access) (tree : FrameTree) (place : Nat) (name : String) :
    Except Fault Value := Frame.find access name (views tree.frames place)

/-- What can be done with a tree of frames. -/
inductive Operation where
  | push (parent : Nat) (view : Value)
  | lookup (place : Nat) (name : String)
  | store (place : Nat) (key : String) (value : Value)

namespace Operation

/-- The frame that an operation is about. -/
def place : Operation → Nat
  | push parent _ => parent
  | lookup place _ => place
  | store place _ _ => place

/-- The value that a search for a name comes to, if an operation looks it up in a frame. -/
def found? (access : Access) (place : Nat) (name : String) (tree : FrameTree) :
    Operation → Option Value
  | lookup here asked =>
    if here = place ∧ asked = name then (tree.search access place name).toOption else none
  | _ => none

/-- The view of a frame after an operation: what is stored in the frame changes it. -/
def changed (place : Nat) (view : Value) : Operation → Value
  | store here key value => if here = place then view.withEntry key value else view
  | _ => view

end Operation

/-- One operation, and the state of the host after it. -/
def step (host : Host σ) (operation : Operation) : FrameTree × σ → FrameTree × σ :=
  fun (tree, state) =>
    match operation with
    | .push parent view => (tree.push parent view, state)
    | .lookup place name => (tree.lookup host place name state).2
    | .store place key value => (tree.store place key value, state)

/-- Operations one after the other. -/
def run (host : Host σ) : List Operation → FrameTree × σ → FrameTree × σ
  | [], state => state
  | operation :: rest, state => run host rest (step host operation state)

/-- Operations each of which is about a frame that there is. -/
def Fit (host : Host σ) : List Operation → FrameTree × σ → Prop
  | [], _ => True
  | operation :: rest, state =>
    operation.place < state.1.size ∧ Fit host rest (step host operation state)

/-- **The value that the first search for a name came to**, of those in a frame that did not
fail. -/
def firstFound? (host : Host σ) (place : Nat) (name : String) :
    List Operation → FrameTree × σ → Option Value
  | [], _ => none
  | operation :: rest, state =>
    (operation.found? host.access place name state.1).or
      (firstFound? host place name rest (step host operation state))

/-! ### One frame of many -/

theorem getD_set {frames : List FrameNode} {place : Nat} (inside : place < frames.length)
    (frame : FrameNode) (other : Nat) :
    (frames.set place frame).getD other default =
      if place = other then frame else frames.getD other default := by
  rw [List.getD_eq_getElem?_getD, List.getElem?_set, List.getD_eq_getElem?_getD]
  by_cases same : place = other
  · subst same
    simp only [if_pos, inside, Option.getD_some]
  · simp only [if_neg same]

/-- A frame after a push: it is the new one, or it was there before. -/
theorem getD_push (tree : FrameTree) (above : Nat) (view : Value) (place : Nat) :
    (tree.push above view).frames.getD place default =
      if place = tree.size then ⟨view, some above, []⟩ else tree.frames.getD place default := by
  unfold push size
  simp only [List.getD_eq_getElem?_getD, List.getElem?_append]
  by_cases old : place < tree.frames.length
  · rw [if_pos old, if_neg (Nat.ne_of_lt old)]
  · rw [if_neg old, List.getElem?_eq_none (Nat.le_of_not_lt old)]
    by_cases new : place = tree.frames.length
    · rw [if_pos new, new, Nat.sub_self]
      rfl
    · rw [if_neg new, List.getElem?_eq_none]
      show 1 ≤ place - tree.frames.length
      omega

/-- Frames with the same views and the same parents have the same views up to the root. -/
theorem views_congr {frames others : List FrameNode}
    (alike : ∀ place : Nat,
      (frames[place]?).map FrameNode.seen = (others[place]?).map FrameNode.seen) (place : Nat) :
    views frames place = views others place := by
  induction place using Nat.strongRecOn with
  | ind place hypothesis =>
    have here := alike place
    unfold views
    cases first : frames[place]? with
    | none =>
      rw [first] at here
      rw [Option.map_eq_none_iff.mp here.symm]
    | some frame =>
      rw [first] at here
      obtain ⟨other, second, same⟩ := Option.map_eq_some_iff.mp here.symm
      obtain ⟨view, parent⟩ := Prod.mk.inj same
      rw [second]
      simp only [view, parent]
      cases frame.parent with
      | none => rfl
      | some above =>
        by_cases smaller : above < place
        · simp only [if_pos smaller, hypothesis above smaller]
        · simp only [if_neg smaller]

/-- The views from a frame to the root start with its own. -/
theorem views_eq_cons {tree : FrameTree} {place : Nat} (inside : place < tree.size) :
    views tree.frames place = tree.view place :: (views tree.frames place).drop 1 := by
  obtain ⟨frame, here⟩ : ∃ frame, tree.frames[place]? = some frame :=
    ⟨_, List.getElem?_eq_getElem inside⟩
  have view : tree.view place = frame.view := by
    unfold FrameTree.view
    rw [List.getD_eq_getElem?_getD, here]
    rfl
  rw [view]
  unfold views
  rw [here]
  simp only
  split
  · rfl
  · split
    · rfl
    · rfl

/-! ### A look-up -/

/-- The tree where a frame has another memory. -/
def remember (tree : FrameTree) (place : Nat) (memo : Memo) : FrameTree :=
  ⟨tree.frames.set place { tree.frames.getD place default with memo := memo }⟩

section Remembering

variable {tree : FrameTree} {place : Nat}

theorem size_remember (memo : Memo) : (tree.remember place memo).size = tree.size :=
  List.length_set

theorem getElem?_remember {other : Nat} (different : place ≠ other) (memo : Memo) :
    (tree.remember place memo).frames[other]? = tree.frames[other]? :=
  List.getElem?_set_ne different

theorem memo_remember (inside : place < tree.size) (memo : Memo) (other : Nat) :
    (tree.remember place memo).memo other = if place = other then memo else tree.memo other := by
  show ((tree.frames.set place _).getD other default).memo = _
  rw [getD_set inside]
  split
  · rfl
  · rfl

theorem view_remember (inside : place < tree.size) (memo : Memo) (other : Nat) :
    (tree.remember place memo).view other = tree.view other := by
  show ((tree.frames.set place _).getD other default).view = _
  rw [getD_set inside]
  split
  · rename_i same
    rw [← same]
    rfl
  · rfl

/-- What a frame remembers has no part in the views. -/
theorem views_remember (inside : place < tree.size) (memo : Memo) (other : Nat) :
    views (tree.remember place memo).frames other = views tree.frames other := by
  refine views_congr (fun here => ?_) other
  by_cases same : place = here
  · subst same
    show ((tree.frames.set place _)[place]?).map _ = _
    rw [List.getElem?_set_self inside, List.getD_eq_getElem?_getD, List.getElem?_eq_getElem inside]
    rfl
  · rw [getElem?_remember same]

theorem remember_memo (inside : place < tree.size) :
    tree.remember place (tree.memo place) = tree := by
  show FrameTree.mk (tree.frames.set place (tree.frames.getD place default)) = tree
  rw [List.getD_eq_getElem?_getD, List.getElem?_eq_getElem inside]
  exact congrArg FrameTree.mk (List.set_getElem_self inside)

variable (host : Host σ) (state : σ)

theorem lookup_eq (name : String) :
    tree.lookup host place name state =
      match Frame.lookup host.access (tree.view place) ((views tree.frames place).drop 1)
        (tree.memo place) name with
      | (.error fault, _) => (.error fault, tree, state)
      | (.ok raw, memo) => ((Frame.settle host (tree.view place) raw state).1,
          tree.remember place memo, (Frame.settle host (tree.view place) raw state).2) := rfl

/-- The point stands for the view of the frame. -/
theorem lookup_point (inside : place < tree.size) :
    tree.lookup host place "." state =
      ((Frame.settle host (tree.view place) (tree.view place) state).1, tree,
        (Frame.settle host (tree.view place) (tree.view place) state).2) := by
  rw [lookup_eq]
  unfold Frame.lookup
  rw [if_pos rfl]
  simp only [remember_memo inside]

variable {host state} {name : String}

/-- A name that is remembered is not searched for. -/
theorem lookup_known (inside : place < tree.size) (other : name ≠ ".") {raw : Value}
    (known : (tree.memo place).lookup name = some raw) :
    tree.lookup host place name state =
      ((Frame.settle host (tree.view place) raw state).1, tree,
        (Frame.settle host (tree.view place) raw state).2) := by
  rw [lookup_eq]
  unfold Frame.lookup
  rw [if_neg other, known]
  simp only [remember_memo inside]

/-- A name that is not remembered is searched for, and what is found is remembered. -/
theorem lookup_unknown (inside : place < tree.size) (other : name ≠ ".")
    (unknown : (tree.memo place).lookup name = none) :
    tree.lookup host place name state =
      match tree.search host.access place name with
      | .error fault => (.error fault, tree, state)
      | .ok raw => ((Frame.settle host (tree.view place) raw state).1,
          tree.remember place ((name, raw) :: tree.memo place),
          (Frame.settle host (tree.view place) raw state).2) := by
  rw [lookup_eq]
  unfold Frame.lookup
  rw [if_neg other, unknown, ← views_eq_cons inside]
  unfold search
  cases Frame.find host.access name (views tree.frames place) with
  | error fault => rfl
  | ok raw => rfl

end Remembering

/-! ### Memories -/

variable {host : Host σ} {name : String} {tree : FrameTree}

theorem memo_push (parent : Nat) (view : Value) (place : Nat) :
    (tree.push parent view).memo place = tree.memo place := by
  unfold memo
  rw [getD_push]
  split
  · rename_i new
    rw [new, List.getD_eq_getElem?_getD, size, List.getElem?_eq_none (Nat.le_refl _)]
    rfl
  · rfl

theorem memo_store {here : Nat} (inside : here < tree.size) (key : String) (value : Value)
    (place : Nat) : (tree.store here key value).memo place = tree.memo place := by
  show ((tree.frames.set here _).getD place default).memo = _
  rw [getD_set inside]
  split
  · rename_i same
    rw [← same]
    rfl
  · rfl

/-- What a memory holds after a look-up: what it held, or else what was looked up and found. -/
theorem memo_lookup (other : name ≠ ".") {here : Nat} (inside : here < tree.size) (asked : String)
    (state : σ) (place : Nat) :
    ((tree.lookup host here asked state).2.1.memo place).lookup name =
      ((tree.memo place).lookup name).or
        ((Operation.lookup here asked).found? host.access place name tree) := by
  by_cases point : asked = "."
  · have elsewhere : ¬ (here = place ∧ asked = name) := fun both => other (both.2 ▸ point)
    simp only [Operation.found?, if_neg elsewhere, Option.or_none]
    rw [point, lookup_point host state inside]
  · cases known : (tree.memo here).lookup asked with
    | some raw =>
      rw [lookup_known inside point known]
      by_cases same : here = place ∧ asked = name
      · obtain ⟨rfl, rfl⟩ := same
        rw [known, Option.some_or]
      · simp only [Operation.found?, if_neg same, Option.or_none]
    | none =>
      rw [lookup_unknown inside point known]
      by_cases same : here = place ∧ asked = name
      · obtain ⟨rfl, rfl⟩ := same
        rw [known, Option.none_or]
        simp only [Operation.found?, and_self, if_true]
        cases tree.search host.access here asked with
        | error fault => exact known
        | ok raw =>
          show ((tree.remember here _).memo here).lookup asked = _
          rw [memo_remember inside, if_pos rfl]
          exact List.lookup_cons_self
      · simp only [Operation.found?, if_neg same, Option.or_none]
        cases tree.search host.access here asked with
        | error fault => rfl
        | ok raw =>
          show ((tree.remember here _).memo place).lookup name = _
          rw [memo_remember inside]
          split
          · rename_i equal
            subst equal
            have different : name ≠ asked := fun equal => same ⟨rfl, equal.symm⟩
            rw [List.lookup_cons, beq_false_of_ne different]
          · rfl

/-- **What a memory holds after an operation**: what it held, or else what the operation found. -/
theorem memo_step (other : name ≠ ".") (operation : Operation) (state : σ)
    (inside : operation.place < tree.size) (place : Nat) :
    ((step host operation (tree, state)).1.memo place).lookup name =
      ((tree.memo place).lookup name).or (operation.found? host.access place name tree) := by
  cases operation with
  | push parent view =>
    show ((tree.push parent view).memo place).lookup name = _
    rw [memo_push]
    exact Option.or_none.symm
  | store here key value =>
    show ((tree.store here key value).memo place).lookup name = _
    rw [memo_store (show here < tree.size from inside)]
    exact Option.or_none.symm
  | lookup here asked => exact memo_lookup other inside asked state place

/-- **A memory holds the first values that were found**, behind what it held before. -/
theorem memo_run (other : name ≠ ".") (place : Nat) {operations : List Operation}
    {start : FrameTree × σ} (fit : Fit host operations start) :
    ((run host operations start).1.memo place).lookup name =
      ((start.1.memo place).lookup name).or (firstFound? host place name operations start) := by
  induction operations generalizing start with
  | nil => exact Option.or_none.symm
  | cons operation rest hypothesis =>
    obtain ⟨inside, later⟩ := fit
    unfold run firstFound?
    rw [hypothesis later, ← Option.or_assoc]
    exact congrArg (Option.or · _) (memo_step other operation start.2 inside place)

/-- The value that a frame goes by: the first one that was found, or else what is found now. -/
theorem lookup_firstFound (other : name ≠ ".") {place : Nat} {operations : List Operation}
    {view : Value} {start : σ} (fit : Fit host operations (root view, start)) {state : σ}
    (reached : run host operations (root view, start) = (tree, state))
    (inside : place < tree.size) :
    match firstFound? host place name operations (root view, start) with
    | some raw => tree.lookup host place name state =
        ((Frame.settle host (tree.view place) raw state).1, tree,
          (Frame.settle host (tree.view place) raw state).2)
    | none => tree.lookup host place name state =
        match tree.search host.access place name with
        | .error fault => (.error fault, tree, state)
        | .ok raw => ((Frame.settle host (tree.view place) raw state).1,
            tree.remember place ((name, raw) :: tree.memo place),
            (Frame.settle host (tree.view place) raw state).2) := by
  have empty : (root view).memo place = [] := by
    cases place with
    | zero => rfl
    | succ more => rfl
  have held := memo_run other place fit
  rw [reached, empty] at held
  change (tree.memo place).lookup name = firstFound? host place name operations _ at held
  cases first : firstFound? host place name operations (root view, start) with
  | some raw => exact lookup_known inside other (held.trans first)
  | none => exact lookup_unknown inside other (held.trans first)

/-! ### Other frames -/

/-- A look-up changes nothing but the memory of the frame. -/
theorem exists_remember (host : Host σ) {place : Nat} (inside : place < tree.size)
    (asked : String) (state : σ) :
    ∃ memo, (tree.lookup host place asked state).2.1 = tree.remember place memo := by
  rw [lookup_eq]
  split
  · exact ⟨tree.memo place, (remember_memo inside).symm⟩
  · exact ⟨_, rfl⟩

/-- **A look-up leaves the other frames as they are**: their views, what they remember, and what
they answer. -/
theorem lookup_elsewhere {place : Nat} (inside : place < tree.size) (asked : String) (state : σ)
    {elsewhere : Nat} (different : place ≠ elsewhere) :
    let after := (tree.lookup host place asked state).2.1
    after.frames[elsewhere]? = tree.frames[elsewhere]? ∧
      views after.frames elsewhere = views tree.frames elsewhere ∧
      ∀ name later, (after.lookup host elsewhere name later).1 =
          (tree.lookup host elsewhere name later).1 ∧
        (after.lookup host elsewhere name later).2.2 =
          (tree.lookup host elsewhere name later).2.2 := by
  intro after
  obtain ⟨memo, same⟩ := exists_remember host inside asked state
  have views := views_remember inside memo elsewhere
  have frame : (tree.remember place memo).frames[elsewhere]? = _ :=
    getElem?_remember different memo
  rw [← same] at views frame
  refine ⟨frame, views, fun name later => ?_⟩
  have view : after.view elsewhere = tree.view elsewhere := by
    unfold FrameTree.view
    rw [List.getD_eq_getElem?_getD, List.getD_eq_getElem?_getD, frame]
  have remembered : after.memo elsewhere = tree.memo elsewhere := by
    unfold FrameTree.memo
    rw [List.getD_eq_getElem?_getD, List.getD_eq_getElem?_getD, frame]
  rw [lookup_eq, lookup_eq, view, remembered, views]
  split
  · exact ⟨rfl, rfl⟩
  · exact ⟨rfl, rfl⟩

/-! ### Views -/

/-- The place of the parent of a frame. -/
def parent (tree : FrameTree) (place : Nat) : Option Nat :=
  (tree.frames.getD place default).parent

/-- Every frame comes behind its parent. -/
def Ordered (tree : FrameTree) : Prop :=
  ∀ place above, tree.parent place = some above → above < place

/-- **The views of a frame**: its own, and those of its parent. -/
theorem views_eq (ordered : tree.Ordered) {place : Nat} (inside : place < tree.size) :
    views tree.frames place =
      tree.view place :: (tree.parent place).elim [] (views tree.frames) := by
  obtain ⟨frame, here⟩ : ∃ frame, tree.frames[place]? = some frame :=
    ⟨_, List.getElem?_eq_getElem inside⟩
  have known : tree.frames.getD place default = frame := by
    rw [List.getD_eq_getElem?_getD, here]
    rfl
  have smaller := ordered place
  unfold parent at smaller
  unfold parent FrameTree.view
  rw [known] at *
  unfold views
  rw [here]
  simp only
  cases above : frame.parent with
  | none => rfl
  | some parent => simp only [if_pos (smaller parent above), Option.elim_some]

theorem parent_remember {place : Nat} (inside : place < tree.size) (memo : Memo) (other : Nat) :
    (tree.remember place memo).parent other = tree.parent other := by
  show ((tree.frames.set place _).getD other default).parent = _
  rw [getD_set inside]
  split
  · rename_i same
    rw [← same]
    rfl
  · rfl

theorem size_le_step (operation : Operation) (state : σ) (inside : operation.place < tree.size) :
    tree.size ≤ (step host operation (tree, state)).1.size := by
  cases operation with
  | push above view =>
    show tree.frames.length ≤ (tree.frames ++ [_]).length
    rw [List.length_append]
    exact Nat.le_add_right _ _
  | store here key value =>
    show tree.frames.length ≤ (tree.frames.set here _).length
    exact Nat.le_of_eq List.length_set.symm
  | lookup here asked =>
    change here < tree.size at inside
    obtain ⟨memo, same⟩ := exists_remember host inside asked state
    show tree.size ≤ (tree.lookup host here asked state).2.1.size
    rw [same]
    exact Nat.le_of_eq (size_remember memo).symm

/-- Parents still come first after an operation. -/
theorem ordered_step (operation : Operation) (state : σ) (inside : operation.place < tree.size)
    (ordered : tree.Ordered) : (step host operation (tree, state)).1.Ordered := by
  intro place above found
  cases operation with
  | push parent view =>
    change ((tree.push parent view).frames.getD place default).parent = some above at found
    rw [getD_push] at found
    split at found
    · rename_i new
      cases found
      rw [new]
      exact inside
    · exact ordered place above found
  | store here key value =>
    change ((tree.frames.set here _).getD place default).parent = some above at found
    rw [getD_set (show here < tree.frames.length from inside)] at found
    split at found
    · rename_i same
      exact ordered place above (same ▸ found)
    · exact ordered place above found
  | lookup here asked =>
    change here < tree.size at inside
    obtain ⟨memo, same⟩ := exists_remember host inside asked state
    change (tree.lookup host here asked state).2.1.parent place = some above at found
    rw [same, parent_remember inside] at found
    exact ordered place above found

theorem ordered_run {operations : List Operation} {start : FrameTree × σ}
    (fit : Fit host operations start) (ordered : start.1.Ordered) :
    (run host operations start).1.Ordered := by
  induction operations generalizing start with
  | nil => exact ordered
  | cons operation rest hypothesis =>
    obtain ⟨inside, later⟩ := fit
    exact hypothesis later (ordered_step operation start.2 inside ordered)

/-- The view of a frame after an operation. -/
theorem view_step (operation : Operation) (state : σ) (inside : operation.place < tree.size)
    {place : Nat} (there : place < tree.size) :
    (step host operation (tree, state)).1.view place =
      operation.changed place (tree.view place) := by
  cases operation with
  | push above view =>
    show ((tree.push above view).frames.getD place default).view = _
    rw [getD_push, if_neg (Nat.ne_of_lt there)]
    rfl
  | store here key value =>
    show ((tree.frames.set here _).getD place default).view = _
    rw [getD_set (show here < tree.frames.length from inside)]
    unfold Operation.changed
    simp only
    split
    · rename_i same
      rw [← same]
      rfl
    · rfl
  | lookup here asked =>
    change here < tree.size at inside
    obtain ⟨memo, same⟩ := exists_remember host inside asked state
    show (tree.lookup host here asked state).2.1.view place = tree.view place
    rw [same, view_remember inside]

/-- **The view of a frame after a run**: what was stored in the frame has changed it, in the order
in which it was stored. -/
theorem view_run {operations : List Operation} {state : σ}
    (fit : Fit host operations (tree, state)) {place : Nat} (there : place < tree.size) :
    (run host operations (tree, state)).1.view place =
      operations.foldl (fun view operation => operation.changed place view) (tree.view place) := by
  induction operations generalizing tree state with
  | nil => rfl
  | cons operation rest hypothesis =>
    obtain ⟨inside, later⟩ := fit
    have further : place < (step host operation (tree, state)).1.size :=
      Nat.lt_of_lt_of_le there (size_le_step operation state inside)
    unfold run
    rw [List.foldl_cons, ← view_step operation state inside there]
    exact hypothesis later further

/-! ### Look-ups in a run -/

/-- A child looks up a name of the root and one that there is not; then both are stored, and a
second child looks the first one up. -/
def storedOver : List Operation :=
  [.push 0 (.mapping []), .lookup 1 "a", .lookup 1 "m", .store 0 "a" (.text "new"),
    .push 0 (.mapping []), .store 1 "a" (.text "own"), .store 0 "m" (.text "late"), .lookup 2 "a"]

end FrameTree

end Mustache
