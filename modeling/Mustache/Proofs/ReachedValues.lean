import Mustache.Proofs.NameResolution

/-!
**What comes of a view.**

A name leads from the views to entries and items, to attributes, and to what methods answer; what
the attributes of a value are is up to the host. Whatever holds of the views and passes on along all
these ways, holds of all that a name may stand for.

* `Host.Closes`: a property of values that passes on along all ways.
* `Closes.getProperty`, `Closes.walk`, `Closes.hits`, `Closes.find`: **a step, a path, a name, a
  chain of views.**
* `Closes.lookup`: a frame with its memory.
* `Host.Reaches`: what comes of some values, by the fewest ways.
* `Host.Reaches.least`: **it has every property that these values have and that passes on.**
* `Host.Functionless`: nothing that comes of some values is a function.
* `Frame.settle_of_functionless`: then what a name stands for does not depend on the view.
* `Frame.Finds`, `Finds.reaches`: what a name comes to in a frame comes of the views of the frame, if
  no function does.
-/

namespace Mustache

variable {σ : Type}

open Value (Holds Shows Leads Hits)

/-- **A property of values that passes on**: from a value to its entries and items, to its public
attributes, and from a method to what it answers. No value has it, be it stated or not found. -/
structure Host.Closes (host : Host σ) (good : Value → Prop) : Prop where
  null : good .null
  missing : good .missing
  entry {value part : Value} {name : String} : good value →
    value.mappingValue? name = some part → good part
  item {value item : Value} {index : Nat} : good value →
    value.listItem? index = some item → good item
  read {value part : Value} {name : String} : good value → Value.isPublic name = true →
    host.access.read value.opened name = .ok (some part) → good part
  answer {receiver answer : Value} {name : String} {state : σ} : good (.method receiver name) →
    (host.send receiver name state).1 = .ok answer → good answer

/-- Each item of a list-like value stands at an index. -/
theorem Value.exists_index_of_mem {value item : Value} (member : item ∈ value.listItems?.getD []) :
    ∃ index, value.listItem? index = some item := by
  unfold listItems? at member
  unfold listItem?
  cases inside : value.opened with
  | items form values =>
    rw [inside] at member
    exact List.getElem?_of_mem member
  | range start stop step =>
    rw [inside] at member
    obtain ⟨index, among, rfl⟩ := List.mem_map.mp member
    exact ⟨index, if_pos (List.mem_range.mp among)⟩
  | _ =>
    rw [inside] at member
    cases member

namespace Host.Closes

variable {host : Host σ} {good : Value → Prop} (closes : host.Closes good)

include closes

/-! ### Steps and names -/

theorem items {value : Value} (here : good value) :
    ∀ item ∈ value.listItems?.getD [], good item := by
  intro item member
  obtain ⟨index, found⟩ := Value.exists_index_of_mem member
  exact closes.item here found

theorem holds {value held : Value} {name : String} (here : good value)
    (holds : value.Holds host.access name held) : good held := by
  cases holds with
  | entry under => exact closes.entry here under
  | item _ _ _ found => exact closes.item here found
  | «attribute» _ shown own => exact closes.read here shown own

theorem shows {value shown : Value} {name : String} (here : good value)
    (shows : value.Shows host.access name shown) : good shown := by
  obtain ⟨scalar, visible, own⟩ := shows
  rw [← Value.opened_of_isPrimitive scalar] at own
  exact closes.read here visible own

/-- **A step** into a good value. -/
theorem getProperty {value part : Value} {name : String} (here : good value)
    (step : value.getProperty host.access name = .ok part) : good part := by
  rcases Value.property_cases host.access value name with
    ⟨held, holds⟩ | ⟨shown, shows⟩ | ⟨fault, balks⟩ | ⟨_, _, nothing⟩
  · cases holds.spec.2.symm.trans step
    exact closes.holds here holds
  · cases shows.spec.2.2.symm.trans step
    exact closes.shows here shows
  · cases balks.spec.1.symm.trans step
  · cases nothing.symm.trans step
    exact closes.null

theorem leads {value reached : Value} {segments : List String} (here : good value)
    (leads : value.Leads host.access segments reached) : good reached := by
  induction leads with
  | here _ => exact here
  | step _ got _ hypothesis => exact hypothesis (closes.getProperty here got)

/-- **A path** from a good value. -/
theorem walk {value found : Value} {segments : List String} (here : good value)
    (walked : value.walk host.access segments = .ok (some found)) : good found := by
  rcases Value.walk_cases host.access value segments with
    ⟨other, before, last, reached, rfl, leads, has⟩ |
    ⟨fault, before, segment, after, reached, rfl, leads, balks⟩ | nothing
  · have same := (leads.walk_append (List.cons_ne_nil last [])).trans
      (Value.walk_last leads.reached_ne_null has)
    cases walked.symm.trans same
    have there := closes.leads here leads
    rcases has with holds | shows
    · exact closes.holds there holds
    · exact closes.shows there shows
  · have failed := (leads.walk_append (List.cons_ne_nil segment after)).trans
      (Value.walk_balks leads.reached_ne_null balks after)
    cases walked.symm.trans failed
  · cases walked.symm.trans nothing

/-- **A name** that a good view has. -/
theorem hits {view found : Value} {name : String} (here : good view)
    (hits : view.Hits host.access name found) : good found := by
  obtain ⟨before, last, reached, _, leads, has⟩ := hits
  have there := closes.leads here leads
  rcases has with holds | ⟨_, shows⟩
  · exact closes.holds there holds
  · exact closes.shows there shows

/-- **A chain of good views.** -/
theorem find {views : List Value} {name : String} {value : Value}
    (here : ∀ view ∈ views, good view) (found : Frame.find host.access name views = .ok value) :
    good value := by
  rcases Frame.find_eq_ok_iff.mp found with ⟨nearest, ⟨inner, outer, rfl, _⟩, hits⟩ | ⟨rfl, _⟩
  · have among : nearest ∈ inner ++ nearest :: outer :=
      List.mem_append_right inner List.mem_cons_self
    exact closes.hits (here nearest among) hits
  · exact closes.missing

/-! ### Frames -/

/-- **A frame with its memory**: what it finds is good, and so is all it remembers then. -/
theorem lookup {view : Value} {outer : List Value} {memo : Memo} (name : String)
    (here : ∀ own ∈ view :: outer, good own) (known : ∀ entry ∈ memo, good entry.2) :
    (∀ value, (Frame.lookup host.access view outer memo name).1 = .ok value → good value) ∧
      ∀ entry ∈ (Frame.lookup host.access view outer memo name).2, good entry.2 := by
  unfold Frame.lookup
  split
  · refine ⟨fun value found => ?_, known⟩
    cases found
    exact here view List.mem_cons_self
  · split
    · rename_i value remembered
      refine ⟨fun other found => ?_, known⟩
      cases found
      obtain ⟨before, after, rfl, _⟩ := List.lookup_eq_some_iff.mp remembered
      exact known (name, value) (List.mem_append_right _ List.mem_cons_self)
    · split
      · exact ⟨nofun, known⟩
      · rename_i value searched
        have found := closes.find here searched
        refine ⟨fun other same => ?_, List.forall_mem_cons.mpr ⟨found, known⟩⟩
        cases same
        exact found

end Host.Closes

/-! ### What is reached -/

/-- **What comes of some values**: they themselves and no value; and of what comes of them, all
entries and items, all public attributes, and what the methods among these answer. -/
inductive Host.Reaches (host : Host σ) (start : Value → Prop) : Value → Prop
  | start {value : Value} : start value → Reaches host start value
  | null : Reaches host start .null
  | missing : Reaches host start .missing
  | entry {value part : Value} {name : String} : Reaches host start value →
      value.mappingValue? name = some part → Reaches host start part
  | item {value item : Value} {index : Nat} : Reaches host start value →
      value.listItem? index = some item → Reaches host start item
  | read {value part : Value} {name : String} : Reaches host start value →
      Value.isPublic name = true → host.access.read value.opened name = .ok (some part) →
      Reaches host start part
  | answer {receiver answer : Value} {name : String} {state : σ} :
      Reaches host start (.method receiver name) →
      (host.send receiver name state).1 = .ok answer → Reaches host start answer

namespace Host.Reaches

variable {host : Host σ} {start : Value → Prop}

/-- To be reached passes on. -/
theorem closes (host : Host σ) (start : Value → Prop) : host.Closes (host.Reaches start) where
  null := .null
  missing := .missing
  entry := .entry
  item := .item
  read := .read
  answer := .answer

/-- **What comes of some values has every property that they have and that passes on.** -/
theorem least {good : Value → Prop} (closes : host.Closes good)
    (here : ∀ value, start value → good value) {value : Value}
    (reached : host.Reaches start value) : good value := by
  induction reached with
  | start first => exact here _ first
  | null => exact closes.null
  | missing => exact closes.missing
  | entry _ under hypothesis => exact closes.entry hypothesis under
  | item _ found hypothesis => exact closes.item hypothesis found
  | read _ shown own hypothesis => exact closes.read hypothesis shown own
  | answer _ answered hypothesis => exact closes.answer hypothesis answered

end Host.Reaches

/-! ### Functions -/

/-- The functions that a view may be given: those that are called for their values, computed
properties and higher-order sections. -/
def Value.isFunction : Value → Bool
  | function _ | accessor _ | sectionLambda _ => true
  | _ => false

/-- **Nothing that comes of some values is a function.** Methods may come of them. -/
def Host.Functionless (host : Host σ) (start : Value → Prop) : Prop :=
  ∀ value, host.Reaches start value → value.isFunction = false

/-- **What stands for no function stands for the same in every view**, and for what comes of the
same values. -/
theorem Frame.settle_of_functionless {host : Host σ} {start : Value → Prop}
    (functionless : host.Functionless start) {raw : Value} (reached : host.Reaches start raw)
    (view beside : Value) (state : σ) :
    settle host view raw state = settle host beside raw state ∧
      ∀ value, (settle host view raw state).1 = .ok value → host.Reaches start value := by
  have plain := functionless raw reached
  cases raw with
  | function _ | accessor _ | sectionLambda _ => cases plain
  | method receiver name => exact ⟨rfl, fun _ settled => .answer reached settled⟩
  | _ => exact ⟨rfl, fun _ same => Except.ok.inj same ▸ reached⟩

/-! ### Frames that remember nothing -/

/-- **A name comes to a value** among some views: what it stands for in a frame that remembers
nothing is settled there, in some state of the host. -/
def Frame.Finds (host : Host σ) (view : Value) (outer : List Value) (name : String)
    (value : Value) : Prop :=
  ∃ raw state, (lookup host.access view outer [] name).1 = .ok raw ∧
    (settle host view raw state).1 = .ok value

/-- What a name comes to among views that come of some values comes of these. -/
theorem Frame.Finds.reaches {host : Host σ} {start : Value → Prop}
    (functionless : host.Functionless start) {view value : Value} {outer : List Value}
    {name : String} (here : ∀ own ∈ view :: outer, host.Reaches start own)
    (finds : Finds host view outer name value) : host.Reaches start value := by
  obtain ⟨raw, state, looked, settled⟩ := finds
  obtain ⟨reached, _⟩ :=
    (Host.Reaches.closes host start).lookup name here (List.forall_mem_nil _)
  obtain ⟨_, whole⟩ := settle_of_functionless functionless (reached raw looked) view view state
  exact whole value settled

end Mustache
