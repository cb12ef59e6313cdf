import Mustache.Proofs.PublicPaths
import Mustache.Proofs.Remembering

/-!
**Private attributes make no difference.**

Whatever the private attributes of the objects in the views are, a name is found in the same frame
and along the same path, and what is found differs in private attributes only.

* `Value.AlikeInPublic`: values that differ in private attributes only.
* `passes_alike`, `getProperty_alike`: **one step** into two such values.
* `reaches_alike`, `resolve_alike`: a path, and what a view has for a name.
* `Frame.remembered`: the memory of a frame in which names were looked up.
* `Frame.FoundAt`: the frame in which a name is found, and the path to its value.
* `Frame.lookup_public`: **the main statement.**
-/

namespace Mustache

open Mustache.Action (SameOutcome)

namespace Value

/-! ### Values that differ in private attributes only -/

mutual

/-- **Values that differ in private attributes only**: those of the objects in them, wherever they
are. -/
inductive AlikeInPublic : Value → Value → Prop
  | same (value : Value) : AlikeInPublic value value
  | items {form : ListForm} {values others : List Value} : AllAlikeInPublic values others →
      AlikeInPublic (.items form values) (.items form others)
  | mapping {entries others : List (Value × Value)} : EntriesAlikeInPublic entries others →
      AlikeInPublic (.mapping entries) (.mapping others)
  | object {attributes others : List (String × Value)} :
      AttributesAlikeInPublic attributes others →
      AlikeInPublic (.object attributes) (.object others)
  | knot {bodies others : List Value} {place : Nat} : AllAlikeInPublic bodies others →
      AlikeInPublic (.knot bodies place) (.knot others place)

/-- Values that differ in private attributes only, one by one. -/
inductive AllAlikeInPublic : List Value → List Value → Prop
  | nil : AllAlikeInPublic [] []
  | cons {value other : Value} {rest others : List Value} : AlikeInPublic value other →
      AllAlikeInPublic rest others → AllAlikeInPublic (value :: rest) (other :: others)

/-- Entries with the same keys, whose values differ in private attributes only. -/
inductive EntriesAlikeInPublic : List (Value × Value) → List (Value × Value) → Prop
  | nil : EntriesAlikeInPublic [] []
  | cons {key value other : Value} {rest others : List (Value × Value)} :
      AlikeInPublic value other → EntriesAlikeInPublic rest others →
      EntriesAlikeInPublic ((key, value) :: rest) ((key, other) :: others)

/-- **Attributes of which the private ones are free**: either side may have any of them, with any
values. -/
inductive AttributesAlikeInPublic : List (String × Value) → List (String × Value) → Prop
  | nil : AttributesAlikeInPublic [] []
  | cons {name : String} {value other : Value} {rest others : List (String × Value)} :
      AlikeInPublic value other → AttributesAlikeInPublic rest others →
      AttributesAlikeInPublic ((name, value) :: rest) ((name, other) :: others)
  | left {name : String} {value : Value} {rest others : List (String × Value)} : Private name →
      AttributesAlikeInPublic rest others →
      AttributesAlikeInPublic ((name, value) :: rest) others
  | right {name : String} {other : Value} {rest others : List (String × Value)} : Private name →
      AttributesAlikeInPublic rest others →
      AttributesAlikeInPublic rest ((name, other) :: others)

end

mutual

theorem AlikeInPublic.symm {value other : Value} :
    AlikeInPublic value other → AlikeInPublic other value
  | .same value => .same value
  | .items alike => .items alike.symm
  | .mapping alike => .mapping alike.symm
  | .object alike => .object alike.symm
  | .knot alike => .knot alike.symm

theorem AllAlikeInPublic.symm {values others : List Value} :
    AllAlikeInPublic values others → AllAlikeInPublic others values
  | .nil => .nil
  | .cons alike rest => .cons alike.symm rest.symm

theorem EntriesAlikeInPublic.symm {entries others : List (Value × Value)} :
    EntriesAlikeInPublic entries others → EntriesAlikeInPublic others entries
  | .nil => .nil
  | .cons alike rest => .cons alike.symm rest.symm

theorem AttributesAlikeInPublic.symm {attributes others : List (String × Value)} :
    AttributesAlikeInPublic attributes others → AttributesAlikeInPublic others attributes
  | .nil => .nil
  | .cons alike rest => .cons alike.symm rest.symm
  | .left hidden rest => .right hidden rest.symm
  | .right hidden rest => .left hidden rest.symm

end

theorem AllAlikeInPublic.refl (values : List Value) : AllAlikeInPublic values values := by
  induction values with
  | nil => exact .nil
  | cons value rest hypothesis => exact .cons (.same value) hypothesis

theorem EntriesAlikeInPublic.refl (entries : List (Value × Value)) :
    EntriesAlikeInPublic entries entries := by
  induction entries with
  | nil => exact .nil
  | cons entry rest hypothesis => exact .cons (.same entry.2) hypothesis

/-! ### The parts of such values -/

theorem AllAlikeInPublic.length {values others : List Value}
    (alike : AllAlikeInPublic values others) : values.length = others.length := by
  induction values generalizing others with
  | nil =>
    cases alike
    rfl
  | cons value rest hypothesis =>
    cases alike with
    | cons _ later => exact congrArg Nat.succ (hypothesis later)

theorem AllAlikeInPublic.getElem? {values others : List Value}
    (alike : AllAlikeInPublic values others) (index : Nat) :
    Option.Rel AlikeInPublic values[index]? others[index]? := by
  induction values generalizing others index with
  | nil =>
    cases alike
    exact .none
  | cons value rest hypothesis =>
    cases alike with
    | cons here later =>
      cases index with
      | zero => exact .some here
      | succ index => exact hypothesis later index

theorem AllAlikeInPublic.getD {values others : List Value}
    (alike : AllAlikeInPublic values others) (index : Nat) :
    AlikeInPublic (values.getD index null) (others.getD index null) := by
  rw [List.getD_eq_getElem?_getD, List.getD_eq_getElem?_getD]
  have here := alike.getElem? index
  generalize values[index]? = value at here
  generalize others[index]? = other at here
  cases here with
  | none => exact .same null
  | some here => exact here

theorem EntriesAlikeInPublic.valueUnder? {entries others : List (Value × Value)}
    (alike : EntriesAlikeInPublic entries others) (name : String) :
    Option.Rel AlikeInPublic (valueUnder? name entries) (valueUnder? name others) := by
  induction entries generalizing others with
  | nil =>
    cases alike
    exact .none
  | cons entry rest hypothesis =>
    cases alike with
    | @cons key value other _ others here later =>
      cases key with
      | text own =>
        simp only [Value.valueUnder?]
        by_cases same : own = name
        · rw [if_pos same, if_pos same]
          exact .some here
        · rw [if_neg same, if_neg same]
          exact hypothesis later
      | _ =>
        simp only [Value.valueUnder?]
        exact hypothesis later

/-- **A public attribute is found on both sides**, past all private ones. -/
theorem AttributesAlikeInPublic.attribute? {attributes others : List (String × Value)}
    {name : String} (shown : ¬ Private name) : AttributesAlikeInPublic attributes others →
      Option.Rel AlikeInPublic (attribute? name attributes) (attribute? name others)
  | .nil => .none
  | @AttributesAlikeInPublic.cons own _ _ _ _ here later => by
    simp only [Value.attribute?]
    by_cases same : own = name
    · rw [if_pos same, if_pos same]
      exact .some here
    · rw [if_neg same, if_neg same]
      exact later.attribute? shown
  | .left hidden later => by
    rw [Value.attribute?, if_neg (by rintro rfl; exact shown hidden)]
    exact later.attribute? shown
  | .right hidden later => by
    simp only [Value.attribute?]
    rw [if_neg (by rintro rfl; exact shown hidden)]
    exact later.attribute? shown

/-- One of a knot is seen on both sides. -/
theorem AlikeInPublic.seenFrom {bodies others : List Value}
    (around : AllAlikeInPublic bodies others) {value other : Value}
    (alike : AlikeInPublic value other) :
    AlikeInPublic (seenFrom bodies value) (seenFrom others other) := by
  cases alike with
  | same value =>
    cases value with
    | back place => exact .knot around
    | _ => exact .same _
  | items inner => exact .items inner
  | mapping inner => exact .mapping inner
  | object inner => exact .object inner
  | knot inner => exact .knot inner

theorem AllAlikeInPublic.seenFrom {bodies others : List Value}
    (around : AllAlikeInPublic bodies others) {values images : List Value}
    (alike : AllAlikeInPublic values images) :
    AllAlikeInPublic (values.map (seenFrom bodies)) (images.map (seenFrom others)) := by
  induction values generalizing images with
  | nil =>
    cases alike
    exact .nil
  | cons value rest hypothesis =>
    cases alike with
    | cons here later => exact .cons (here.seenFrom around) (hypothesis later)

theorem EntriesAlikeInPublic.seenFrom {bodies others : List Value}
    (around : AllAlikeInPublic bodies others) {entries images : List (Value × Value)}
    (alike : EntriesAlikeInPublic entries images) :
    EntriesAlikeInPublic (entries.map fun entry => (entry.1, seenFrom bodies entry.2))
      (images.map fun entry => (entry.1, seenFrom others entry.2)) := by
  induction entries generalizing images with
  | nil =>
    cases alike
    exact .nil
  | cons entry rest hypothesis =>
    cases alike with
    | cons here later => exact .cons (here.seenFrom around) (hypothesis later)

theorem AlikeInPublic.opened {value other : Value} (alike : AlikeInPublic value other) :
    AlikeInPublic value.opened other.opened := by
  cases alike with
  | same value => exact .same _
  | items inner => exact .items inner
  | mapping inner => exact .mapping inner
  | object inner => exact .object inner
  | @knot bodies others place around =>
    have meant := around.getD place
    simp only [Value.opened]
    generalize bodies.getD place null = body at meant
    generalize others.getD place null = image at meant
    cases meant with
    | same body =>
      cases body with
      | items form values => exact .items (around.seenFrom (.refl values))
      | mapping entries => exact .mapping (EntriesAlikeInPublic.seenFrom around (.refl entries))
      | _ => exact .same _
    | items inner => exact .items (around.seenFrom inner)
    | mapping inner => exact .mapping (EntriesAlikeInPublic.seenFrom around inner)
    | object _ | knot _ => exact .same _

/-! ### One step into such values -/

namespace AlikeInPublic

variable {value other : Value} (alike : AlikeInPublic value other)

include alike

theorem mappingValue? (key : String) :
    Option.Rel AlikeInPublic (value.mappingValue? key) (other.mappingValue? key) := by
  have seen := alike.opened
  unfold Value.mappingValue?
  generalize value.opened = body at seen
  generalize other.opened = image at seen
  cases seen with
  | same body =>
    cases body with
    | mapping entries => exact (EntriesAlikeInPublic.refl entries).valueUnder? key
    | _ => exact .none
  | mapping inner => exact inner.valueUnder? key
  | _ => exact .none

theorem listLength? : value.listLength? = other.listLength? := by
  have seen := alike.opened
  unfold Value.listLength?
  generalize value.opened = body at seen
  generalize other.opened = image at seen
  cases seen with
  | items inner => exact congrArg some inner.length
  | _ => rfl

theorem listItem? (index : Nat) :
    Option.Rel AlikeInPublic (value.listItem? index) (other.listItem? index) := by
  have seen := alike.opened
  unfold Value.listItem?
  generalize value.opened = body at seen
  generalize other.opened = image at seen
  cases seen with
  | same body =>
    cases body with
    | items form values => exact (AllAlikeInPublic.refl values).getElem? index
    | range start stop step =>
      by_cases inside : index < rangeLength start stop step
      · simp only [if_pos inside]
        exact .some (.same _)
      · simp only [if_neg inside]
        exact .none
    | _ => exact .none
  | items inner => exact inner.getElem? index
  | _ => exact .none

theorem eq_null : value = null ↔ other = null := by
  cases alike with
  | same value => exact Iff.rfl
  | _ => exact ⟨nofun, nofun⟩

end AlikeInPublic

theorem exists_alike {first second : Option Value} {part : Value}
    (alike : Option.Rel AlikeInPublic first second) (here : first = some part) :
    ∃ image, second = some image ∧ AlikeInPublic part image := by
  cases alike with
  | some alike =>
    cases here
    exact ⟨_, rfl, alike⟩
  | none => cases here

variable (access : Access)

/-- **A public attribute is read alike**: the attributes of other values than objects are the same
on both sides. -/
theorem read_alike {value other : Value} {name : String} (shown : ¬ Private name)
    (alike : AlikeInPublic value other) :
    SameOutcome (fun _ => True) (Option.Rel AlikeInPublic) (access.read value name)
      (access.read other name) := by
  cases alike with
  | same value =>
    cases access.read value name with
    | error fault => exact .error trivial
    | ok found =>
      cases found with
      | none => exact .ok .none
      | some held => exact .ok (.some (.same held))
  | object inner => exact .ok (inner.attribute? shown)
  | _ => exact .ok .none

/-- **The same step leads to parts that differ in private attributes only.** -/
theorem passes_alike {value other part : Value} {segment : String} {step : PathStep}
    (alike : AlikeInPublic value other) (passes : value.Passes access segment step part) :
    ∃ image, other.Passes access segment step image ∧ AlikeInPublic part image := by
  cases passes with
  | entry under =>
    obtain ⟨image, there, parts⟩ := exists_alike (alike.mappingValue? segment) under
    exact ⟨image, .entry there, parts⟩
  | item measured denotes inside here =>
    obtain ⟨image, there, parts⟩ := exists_alike (alike.listItem? _) here
    exact ⟨image, .item (alike.listLength?.symm.trans measured) denotes inside there, parts⟩
  | «attribute» some shown own =>
    have same := read_alike access shown alike.opened
    rw [own] at same
    generalize read : access.read other.opened segment = found at same
    cases same with
    | ok both =>
      obtain ⟨image, rfl, parts⟩ := exists_alike both rfl
      exact ⟨image, .attribute some shown read, parts⟩

/-- **The same path leads to values that differ in private attributes only.** -/
theorem reaches_alike {value other reached : Value} {segments : List String}
    {steps : List PathStep} (alike : AlikeInPublic value other)
    (reaches : value.Reaches access segments steps reached) :
    ∃ image, other.Reaches access segments steps image ∧ AlikeInPublic reached image := by
  induction reaches generalizing other with
  | here => exact ⟨other, .here, alike⟩
  | step passes _ hypothesis =>
    obtain ⟨next, there, parts⟩ := passes_alike access alike passes
    obtain ⟨image, later, ends⟩ := hypothesis parts
    exact ⟨image, .step there later, ends⟩

theorem hasProperty_alike {value other : Value} (alike : AlikeInPublic value other)
    (name : String) : value.hasProperty access name = other.hasProperty access name := by
  have seen := alike.opened
  unfold hasProperty
  generalize value.opened = body at seen
  generalize other.opened = image at seen
  have isSome : ∀ {first second : Option Value}, Option.Rel AlikeInPublic first second →
      first.isSome = second.isSome := by
    intro first second alike
    cases alike <;> rfl
  cases seen with
  | same body => rfl
  | items inner => simp only [inner.length]
  | mapping inner => exact congrArg Except.ok (isSome (inner.valueUnder? name))
  | object inner =>
    cases shown : isPublic name with
    | false => rfl
    | true =>
      exact congrArg Except.ok (isSome (inner.attribute? ((isPublic_iff name).mp shown).2))
  | knot inner => rfl

theorem primitiveHasProperty_alike {value other : Value} (alike : AlikeInPublic value other)
    (name : String) :
    value.primitiveHasProperty access name = other.primitiveHasProperty access name := by
  cases alike <;> rfl

theorem getD_alike {first second : Option Value} (alike : Option.Rel AlikeInPublic first second) :
    AlikeInPublic (first.getD null) (second.getD null) := by
  cases alike with
  | some here => exact here
  | none => exact .same null

/-- Whether an item is given does not depend on the items. -/
theorem item_alike {form : ListForm} {values others : List Value}
    (alike : AllAlikeInPublic values others) (index : Nat) :
    SameOutcome (fun _ => True) AlikeInPublic (access.item (items form values) index)
      (access.item (items form others) index) := by
  have given : access.refusal? (items form values) index =
      access.refusal? (items form others) index := by
    cases form <;> rfl
  unfold Access.item
  rw [given]
  cases access.refusal? (items form others) index with
  | some fault => exact .error trivial
  | none => exact .ok (getD_alike (alike.getElem? index))

/-- **Properties differ in private attributes only**, since no private attribute is a property. -/
theorem getProperty_alike {value other : Value} (alike : AlikeInPublic value other)
    (name : String) : SameOutcome (fun _ => True) AlikeInPublic (value.getProperty access name)
      (other.getProperty access name) := by
  have seen := alike.opened
  unfold getProperty
  generalize value.opened = body at seen
  generalize other.opened = image at seen
  cases seen with
  | same body =>
    exact (Action.sameOutcome_refl fun _ _ => trivial).mono fun same => same ▸ .same _
  | items inner =>
    simp only [itemNamed, inner.length]
    cases listIndex? _ name with
    | error fault => exact .error trivial
    | ok index =>
      cases index with
      | none => exact .ok (.same null)
      | some index => exact item_alike access inner index
  | mapping inner => exact .ok (getD_alike (inner.valueUnder? name))
  | object inner =>
    cases shown : isPublic name with
    | false => exact .ok (.same null)
    | true => exact .ok (getD_alike (inner.attribute? ((isPublic_iff name).mp shown).2))
  | knot inner =>
    cases isPublic name with
    | false => exact .ok (.same _)
    | true => exact .ok (.same _)

/-! ### What such views have -/

/-- What becomes of a test and of a property that go together. -/
theorem tested_alike {test : Except Fault Bool} {result image : Except Fault Value}
    (alike : SameOutcome (fun _ => True) AlikeInPublic result image) :
    SameOutcome (fun _ => True) (Option.Rel AlikeInPublic)
      (ifHit test result) (ifHit test image) := by
  cases test with
  | error fault => exact .error trivial
  | ok passed =>
    cases alike with
    | error may => exact .error may
    | ok here =>
      cases passed with
      | false => exact .ok .none
      | true => exact .ok (.some here)

theorem walk_alike {value other : Value} (alike : AlikeInPublic value other)
    (steps : List String) :
    SameOutcome (fun _ => True) (Option.Rel AlikeInPublic) (value.walk access steps)
      (other.walk access steps) := by
  induction steps generalizing value other with
  | nil =>
    have nowhere : ∀ value : Value, value.walk access [] = .ok none := by
      intro value
      cases value <;> rfl
    rw [nowhere, nowhere]
    exact .ok .none
  | cons segment rest hypothesis =>
    by_cases absent : value = null
    · rw [absent, alike.eq_null.mp absent, walk_null]
      exact .ok .none
    · have present := mt alike.eq_null.mpr absent
      have got := getProperty_alike access alike segment
      by_cases last : rest = []
      · subst last
        rw [walk_single absent, walk_single present, hasSegment, hasSegment,
          hasProperty_alike access alike, primitiveHasProperty_alike access alike]
        exact tested_alike got
      · rw [walk_step _ _ last, walk_step _ _ last]
        generalize value.getProperty access segment = result at got
        generalize other.getProperty access segment = image at got
        cases got with
        | ok here => exact hypothesis here
        | error may => exact .error may

theorem resolve_alike {view beside : Value} (alike : AlikeInPublic view beside)
    (name : String) : SameOutcome (fun _ => True) (Option.Rel AlikeInPublic)
      (view.resolve access name) (beside.resolve access name) := by
  unfold resolve ownProperty
  split
  · exact walk_alike access alike _
  · rw [hasProperty_alike access alike]
    exact tested_alike (getProperty_alike access alike name)

theorem misses_alike {view beside : Value} (alike : AlikeInPublic view beside) {name : String}
    (misses : view.Misses access name) : beside.Misses access name := by
  rw [← resolve_misses] at misses ⊢
  have same := resolve_alike access alike name
  rw [misses] at same
  generalize beside.resolve access name = image at same
  cases same with
  | ok here =>
    cases here
    rfl

theorem hits_alike {view beside found : Value} (alike : AlikeInPublic view beside) {name : String}
    (hits : view.Hits access name found) :
    ∃ image, beside.Hits access name image ∧ AlikeInPublic found image := by
  have same := resolve_alike access alike name
  rw [resolve_hits.mpr hits] at same
  generalize result : beside.resolve access name = image at same
  cases same with
  | ok here =>
    cases here with
    | some parts => exact ⟨_, resolve_hits.mp result, parts⟩

end Value

namespace Frame

/-! ### Chains of views -/

variable {access : Access}

/-- The memory of a new frame in which some names were looked up. -/
def remembered (access : Access) (view : Value) (outer : List Value) (asked : List String) : Memo :=
  asked.foldl (fun memo name => (lookup access view outer memo name).2) []

theorem remembered_faithful (access : Access) (view : Value) (outer : List Value)
    (asked : List String) : (remembered access view outer asked).Faithful access ⟨view, outer⟩ := by
  have along : ∀ memo : Memo, memo.Faithful access ⟨view, outer⟩ →
      Memo.Faithful access ⟨view, outer⟩
        (asked.foldl (fun memo name => (lookup access view outer memo name).2) memo) := by
    induction asked with
    | nil => exact fun _ faithful => faithful
    | cons name rest hypothesis =>
      exact fun memo faithful => hypothesis _ (lookup_eq_searchAfresh faithful name).2
  exact along [] (Memo.faithful_nil _ _)

/-- Whatever was looked up before, a name is looked for along the views. -/
theorem lookup_remembered (access : Access) {name : String} (other : name ≠ ".") (view : Value)
    (outer : List Value) (asked : List String) :
    (lookup access view outer (remembered access view outer asked) name).1 =
      find access name (view :: outer) := by
  have same := (lookup_eq_searchAfresh (remembered_faithful access view outer asked) name).1
  rw [same, searchAfresh, if_neg other]

/-- **The frame in which a name is found, and the path to its value**: all frames before it miss the
name, its own view has it, and the value is reached from there by one step for each segment. -/
def FoundAt (access : Access) (name : String) (views : List Value) (place : Nat)
    (steps : List PathStep) (value : Value) : Prop :=
  ∃ inner winner outer segments, views = inner ++ winner :: outer ∧ inner.length = place ∧
    (∀ missed ∈ inner, missed.Misses access name) ∧ winner.Hits access name value ∧
    Steps name segments ∧ winner.Reaches access segments steps value

/-- **What is found is found in a frame, along a path.** -/
theorem find_eq_ok_iff_foundAt {name : String} {views : List Value} {value : Value} :
    Frame.find access name views = .ok value ↔
      (∃ place steps, FoundAt access name views place steps value) ∨
        value = .missing ∧ ∀ missed ∈ views, missed.Misses access name := by
  rw [find_eq_ok_iff]
  refine or_congr_left ⟨?_, ?_⟩
  · rintro ⟨winner, ⟨inner, outer, cut, misses⟩, hits⟩
    obtain ⟨segments, steps, stands, reaches⟩ := Value.reaches_of_hits hits
    exact ⟨inner.length, steps, inner, winner, outer, segments, cut, rfl, misses, hits, stands,
      reaches⟩
  · rintro ⟨_, _, inner, winner, outer, _, cut, _, misses, hits, _⟩
    exact ⟨winner, ⟨inner, outer, cut, misses⟩, hits⟩

/-- A name is found in one frame and along one path at most. -/
theorem FoundAt.unique {name : String} {views : List Value} {place elsewhere : Nat}
    {steps others : List PathStep} {value other : Value}
    (found : FoundAt access name views place steps value)
    (again : FoundAt access name views elsewhere others other) :
    place = elsewhere ∧ steps = others ∧ value = other := by
  obtain ⟨inner, winner, outer, segments, cut, rfl, misses, hits, stands, reaches⟩ := found
  obtain ⟨before, nearest, beyond, parts, cutAgain, rfl, missed, hit, standAgain, reached⟩ := again
  have apart : ∀ {inner before outer beyond : List Value} {winner nearest found : Value},
      inner ++ winner :: outer = before ++ nearest :: beyond → winner.Hits access name found →
      (∀ missed ∈ before, missed.Misses access name) → before.length ≤ inner.length := by
    intro inner before outer beyond winner nearest found same hits misses
    refine Nat.le_of_not_lt fun shorter => ?_
    have member : winner ∈ before := by
      have here := congrArg (·[inner.length]?) same
      simp only [List.getElem?_append_right (Nat.le_refl _), Nat.sub_self,
        List.getElem?_append_left shorter, List.getElem?_cons_zero] at here
      exact List.mem_of_getElem? here.symm
    exact (misses winner member).1 found hits
  rw [cut] at cutAgain
  have equal := Nat.le_antisymm (apart cutAgain.symm hit misses) (apart cutAgain hits missed)
  obtain ⟨rfl, same⟩ := List.append_inj cutAgain equal
  cases same
  rw [Value.steps_iff] at stands standAgain
  rw [← standAgain] at stands
  subst stands
  obtain ⟨rfl, rfl⟩ := reaches.unique reached
  exact ⟨rfl, rfl, rfl⟩

theorem find_alike {name : String} {views others : List Value}
    (alike : Value.AllAlikeInPublic views others) :
    SameOutcome (fun _ => True) Value.AlikeInPublic (Frame.find access name views)
      (Frame.find access name others) := by
  induction views generalizing others with
  | nil =>
    cases alike
    exact .ok (.same _)
  | cons view outer hypothesis =>
    cases alike with
    | @cons _ beside _ rest here later =>
      have same := Value.resolve_alike access here name
      rw [find, find]
      generalize view.resolve access name = result at same
      generalize beside.resolve access name = image at same
      cases same with
      | error may => exact .error may
      | ok both =>
        cases both with
        | some parts => exact .ok parts
        | none => exact hypothesis later

/-- **A name is found in the same frame and along the same path.** -/
theorem FoundAt.alike {name : String} {views others : List Value} {place : Nat}
    {steps : List PathStep} {value : Value} (found : FoundAt access name views place steps value)
    (alike : Value.AllAlikeInPublic views others) :
    ∃ image, FoundAt access name others place steps image ∧ value.AlikeInPublic image := by
  obtain ⟨inner, winner, outer, segments, rfl, rfl, misses, hits, stands, reaches⟩ := found
  induction inner generalizing others with
  | nil =>
    cases alike with
    | @cons _ nearest _ beyond here _ =>
      obtain ⟨image, hit, parts⟩ := Value.hits_alike access here hits
      obtain ⟨reached, there, _⟩ := Value.reaches_alike access here reaches
      rw [hit.reached_eq stands there] at there
      exact ⟨image, ⟨[], nearest, beyond, segments, rfl, rfl, nofun, hit, stands, there⟩, parts⟩
  | cons view inner hypothesis =>
    cases alike with
    | @cons _ beside _ rest here later =>
      obtain ⟨missed, misses⟩ := List.forall_mem_cons.mp misses
      obtain ⟨image, ⟨before, nearest, beyond, names, cut, long, missesThere, found⟩, parts⟩ :=
        hypothesis later misses
      have all : ∀ own ∈ beside :: before, own.Misses access name :=
        List.forall_mem_cons.mpr ⟨Value.misses_alike access here missed, missesThere⟩
      exact ⟨image, ⟨beside :: before, nearest, beyond, names, congrArg (beside :: ·) cut,
        congrArg Nat.succ long, all, found⟩, parts⟩

/-! ### Looking a name up -/

/-- **A name does not lead to private attributes.** Whatever was looked up in a frame before, what
is found for a name is found in one frame, and reached from its view by one step for each segment:
to the entry of a mapping, to an item of a list, or to an attribute whose name is neither empty nor
private. Whatever the private attributes in the views are, the name is found in the same frame and
along the same path, what is found differs in private attributes only, and a fault stays the
same. -/
theorem lookup_public (access : Access) {name : String} (other : name ≠ ".") (view : Value)
    (outer : List Value) (asked : List String) :
    (∀ value, (lookup access view outer (remembered access view outer asked) name).1 = .ok value ↔
      (∃ place steps, FoundAt access name (view :: outer) place steps value) ∨
        value = .missing ∧ ∀ missed ∈ view :: outer, missed.Misses access name) ∧
    (∀ place elsewhere steps others value another,
      FoundAt access name (view :: outer) place steps value →
      FoundAt access name (view :: outer) elsewhere others another →
      place = elsewhere ∧ steps = others ∧ value = another) ∧
    ∀ beside rest, Value.AllAlikeInPublic (view :: outer) (beside :: rest) →
      (∀ place steps, (∃ value, FoundAt access name (view :: outer) place steps value) ↔
        ∃ value, FoundAt access name (beside :: rest) place steps value) ∧
      SameOutcome (fun _ => True) Value.AlikeInPublic
        (lookup access view outer (remembered access view outer asked) name).1
        (lookup access beside rest (remembered access beside rest asked) name).1 := by
  refine ⟨fun value => ?_, fun _ _ _ _ _ _ found again => found.unique again, ?_⟩
  · rw [lookup_remembered access other]
    exact find_eq_ok_iff_foundAt
  · intro beside rest alike
    refine ⟨fun place steps => ⟨?_, ?_⟩, ?_⟩
    · rintro ⟨value, found⟩
      obtain ⟨image, there, _⟩ := found.alike alike
      exact ⟨image, there⟩
    · rintro ⟨value, found⟩
      obtain ⟨image, there, _⟩ := found.alike alike.symm
      exact ⟨image, there⟩
    · rw [lookup_remembered access other, lookup_remembered access other]
      exact find_alike alike

/-- A path through an object, a mapping and a list, beside the same one where the object has another
secret and one more private attribute. -/
theorem lookup_public_secret :
    let inner : Value := .mapping [(.text "tags", .list [.text "x", .text "y"])]
    let user : Value := .object [("_secret", .text "a"), ("data", inner)]
    let beside : Value := .object [("__class__", .null), ("data", inner), ("_secret", .text "b")]
    let root (user : Value) : Value := .mapping [(.text "user", user)]
    let steps : List PathStep := [.entry "user", .attribute "data", .entry "tags", .item 1]
    let access := Catalogue.access
    "user.data.tags.1" ≠ "." ∧ Value.AllAlikeInPublic [.null, root user] [.null, root beside] ∧
      FoundAt access "user.data.tags.1" [.null, root user] 1 steps (.text "y") ∧
      (lookup access .null [root user] (remembered access .null [root user] ["user._secret"])
        "user.data.tags.1").1 = .ok (.text "y") ∧
      (∃ value, FoundAt access "user.data.tags.1" [.null, root beside] 1 steps value) ∧
      (lookup access .null [root user] [] "user._secret").1 = .ok .missing := by
  intro inner user beside root steps access
  have other : "user.data.tags.1" ≠ "." := by decide
  have users : Value.AttributesAlikeInPublic [("_secret", .text "a"), ("data", inner)]
      [("__class__", .null), ("data", inner), ("_secret", .text "b")] :=
    .left (by decide) (.right (by decide) (.cons (.same inner) (.right (by decide) .nil)))
  have alike : Value.AllAlikeInPublic [.null, root user] [.null, root beside] :=
    .cons (.same .null) (.cons (.mapping (.cons (.object users) .nil)) .nil)
  obtain ⟨found, unique, both⟩ := lookup_public access other .null [root user] ["user._secret"]
  have answer : (lookup access .null [root user]
      (remembered access .null [root user] ["user._secret"]) "user.data.tags.1").1 =
      .ok (.text "y") := rfl
  have stands : Steps "user.data.tags.1" ["user", "data", "tags", "1"] :=
    .between (by decide) (by decide) (by decide)
  have reaches : (root user).Reaches access ["user", "data", "tags", "1"] steps (.text "y") :=
    .step (.entry rfl) (.step (.attribute (by decide) (by decide) rfl)
      (.step (.entry rfl) (.step (.item rfl rfl (by decide) rfl) .here)))
  have hits : (root user).Hits access "user.data.tags.1" (.text "y") :=
    Value.resolve_hits.mp rfl
  have here : FoundAt access "user.data.tags.1" [.null, root user] 1 steps (.text "y") :=
    ⟨[.null], root user, [], _, rfl, rfl,
      List.forall_mem_singleton.mpr (Value.resolve_misses.mp rfl), hits, stands, reaches⟩
  exact ⟨other, alike, here, answer,
    ((both (.null) [root beside] alike).1 1 steps).mp ⟨_, here⟩, rfl⟩

end Frame

end Mustache
