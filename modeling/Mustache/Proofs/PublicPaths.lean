import Mustache.Proofs.NameResolution

/-!
**Names lead along public paths.**

What is found for a name is reached from the view that has it by one step for each segment of the
name: to the entry of a mapping, to an item of a list, or to an attribute whose name is not private.
A name leads along one path at most.

* `PathStep`, `Value.Passes`, `Value.Reaches`: steps from a value to its parts, and paths of them.
* `Passes.unique`, `Reaches.unique`: a name leads along one path at most.
* `passes_of_getProperty`: a property that is there is **one step** away.
* `reaches_of_hits`: **what a view has for a name is reached along a path.**
-/

namespace Mustache

/-- A step from a value to a part of it. -/
inductive PathStep where
  | entry (key : String)
  | item (index : Nat)
  | attribute (name : String)
  deriving DecidableEq, Repr

/-- A private name starts with an underscore. -/
def Private (name : String) : Prop := ['_'] <+: name.toList

instance (name : String) : Decidable (Private name) := inferInstanceAs (Decidable (_ <+: _))

namespace Value

theorem isPublic_iff (name : String) : isPublic name = true ↔ name ≠ "" ∧ ¬ Private name := by
  unfold isPublic Private
  rw [ne_eq, ← String.toList_eq_nil_iff]
  cases name.toList with
  | nil => exact ⟨nofun, fun both => absurd rfl both.1⟩
  | cons first rest =>
    show (first != '_') = true ↔ _
    rw [bne_iff_ne, List.cons_prefix_cons]
    exact ⟨fun other => ⟨nofun, fun same => other same.1.symm⟩,
      fun both same => both.2 ⟨same.symm, List.nil_prefix⟩⟩

/-! ### Paths -/

variable {access : Access}

/-- **A step that a segment of a name stands for**: to the entry of a mapping that is there, to an
item of a list whose index it denotes, or to an attribute with a name that is neither empty nor
private. Lists and mappings have no attributes. -/
inductive Passes (access : Access) (value : Value) (segment : String) : PathStep → Value → Prop
  | entry {part : Value} : value.mappingValue? segment = some part →
      Passes access value segment (.entry segment) part
  | item {length index : Nat} {part : Value} : value.listLength? = some length →
      Text.readDecimal? segment.toList = some index → index < length →
      value.listItem? index = some part → Passes access value segment (.item index) part
  | attribute {part : Value} : segment ≠ "" → ¬ Private segment →
      access.read value.opened segment = .ok (some part) →
      Passes access value segment (.attribute segment) part

/-- **A path**: one step for each segment. -/
inductive Reaches (access : Access) :
    Value → List String → List PathStep → Value → Prop
  | here {value : Value} : Reaches access value [] [] value
  | step {value next reached : Value} {segment : String} {segments : List String}
      {step : PathStep} {steps : List PathStep} : value.Passes access segment step next →
      Reaches access next segments steps reached →
      Reaches access value (segment :: segments) (step :: steps) reached

theorem Reaches.append {value next reached : Value} {segments more : List String}
    {steps others : List PathStep} (first : value.Reaches access segments steps next)
    (second : next.Reaches access more others reached) :
    value.Reaches access (segments ++ more) (steps ++ others) reached := by
  induction first with
  | here => exact second
  | step passes _ hypothesis => exact .step passes (hypothesis second)

/-- A segment stands for one step at most. -/
theorem Passes.unique {value part other : Value} {segment : String} {step another : PathStep}
    (passes : value.Passes access segment step part)
    (again : value.Passes access segment another other) : step = another ∧ part = other := by
  -- mappings, lists and all other values are told apart by what is seen of them
  have mapped : ∀ {part}, value.mappingValue? segment = some part →
      ∃ entries, value.opened = mapping entries := by
    intro part found
    unfold mappingValue? at found
    split at found
    · exact ⟨_, by assumption⟩
    · cases found
  have listed : ∀ {length}, value.listLength? = some length →
      (∃ form values, value.opened = items form values) ∨
        ∃ start stop step, value.opened = range start stop step := by
    intro length found
    unfold listLength? at found
    split at found
    · exact .inl ⟨_, _, by assumption⟩
    · exact .inr ⟨_, _, _, by assumption⟩
    · cases found
  cases passes with
  | entry found =>
    obtain ⟨entries, seen⟩ := mapped found
    cases again with
    | entry also =>
      rw [found] at also
      exact ⟨rfl, Option.some.inj also⟩
    | item measured _ _ _ =>
      rcases listed measured with ⟨form, values, as⟩ | ⟨start, stop, step, as⟩ <;>
        cases seen.symm.trans as
    | «attribute» _ _ own =>
      rw [seen] at own
      cases own
  | item measured denotes inside found =>
    cases again with
    | entry also =>
      obtain ⟨entries, seen⟩ := mapped also
      rcases listed measured with ⟨form, values, as⟩ | ⟨start, stop, step, as⟩ <;>
        cases seen.symm.trans as
    | item _ denotesAlso _ also =>
      cases denotes.symm.trans denotesAlso
      exact ⟨rfl, Option.some.inj (found.symm.trans also)⟩
    | «attribute» _ _ own =>
      rcases listed measured with ⟨form, values, as⟩ | ⟨start, stop, step, as⟩ <;>
        (rw [as] at own; cases own)
  | «attribute» _ _ own =>
    cases again with
    | entry also =>
      obtain ⟨entries, seen⟩ := mapped also
      rw [seen] at own
      cases own
    | item measured _ _ _ =>
      rcases listed measured with ⟨form, values, as⟩ | ⟨start, stop, step, as⟩ <;>
        (rw [as] at own; cases own)
    | «attribute» _ _ also => exact ⟨rfl, Option.some.inj (Except.ok.inj (own.symm.trans also))⟩

/-- **Segments stand for one path at most.** -/
theorem Reaches.unique {value reached other : Value} {segments : List String}
    {steps others : List PathStep} (reaches : value.Reaches access segments steps reached)
    (again : value.Reaches access segments others other) : steps = others ∧ reached = other := by
  induction reaches generalizing others other with
  | here =>
    cases again
    exact ⟨rfl, rfl⟩
  | step passes _ hypothesis =>
    cases again with
    | step also later =>
      obtain ⟨rfl, rfl⟩ := passes.unique also
      obtain ⟨rfl, rfl⟩ := hypothesis later
      exact ⟨rfl, rfl⟩

theorem readDecimal?_of_listIndex? {length index : Nat} {name : String}
    (denoted : listIndex? length name = .ok (some index)) :
    Text.readDecimal? name.toList = some index := by
  unfold listIndex? at denoted
  simp only at denoted
  split at denoted
  · cases denoted
  · split at denoted
    · cases denoted
    · split at denoted
      · cases denoted
      · rename_i found
        split at denoted
        · cases denoted
        · split at denoted
          · cases denoted
            exact found
          · cases denoted

/-- What a structured value has is one step away. -/
theorem Holds.passes {value held : Value} {name : String} (holds : value.Holds access name held) :
    ∃ step, value.Passes access name step held := by
  cases holds with
  | entry under => exact ⟨_, .entry under⟩
  | item measured denoted _ here =>
    exact ⟨_, .item measured (readDecimal?_of_listIndex? denoted) (listIndex?_lt denoted) here⟩
  | «attribute» _ shown own =>
    obtain ⟨some, visible⟩ := (isPublic_iff name).mp shown
    exact ⟨_, .attribute some visible own⟩

/-- What a scalar has is one step away. -/
theorem Shows.passes {value shown : Value} {name : String} (shows : value.Shows access name shown) :
    ∃ step, value.Passes access name step shown := by
  obtain ⟨scalar, visible, own⟩ := shows
  obtain ⟨some, visible⟩ := (isPublic_iff name).mp visible
  rw [← opened_of_isPrimitive scalar] at own
  exact ⟨_, .attribute some visible own⟩

/-- A property that is a value is one step away. -/
theorem passes_of_getProperty {value next : Value} {segment : String}
    (got : value.getProperty access segment = .ok next) (present : next ≠ null) :
    ∃ step, value.Passes access segment step next := by
  rcases property_cases access value segment with
    ⟨held, holds⟩ | ⟨shown, shows⟩ | ⟨fault, balks⟩ | ⟨_, _, nothing⟩
  · cases holds.spec.2.symm.trans got
    exact holds.passes
  · cases shows.spec.2.2.symm.trans got
    exact shows.passes
  · cases balks.spec.1.symm.trans got
  · exact absurd (Except.ok.inj (got.symm.trans nothing)) present

/-- Steps that come through are a path. -/
theorem Leads.reaches {value reached : Value} {segments : List String}
    (leads : value.Leads access segments reached) :
    ∃ steps, value.Reaches access segments steps reached := by
  induction leads with
  | here _ => exact ⟨[], .here⟩
  | step _ got later hypothesis =>
    have present : ∀ {value reached : Value} {segments : List String},
        value.Leads access segments reached → value ≠ null := by
      intro value reached segments leads
      cases leads with
      | here present => exact present
      | step present _ _ => exact present
    obtain ⟨step, passes⟩ := passes_of_getProperty got (present later)
    obtain ⟨steps, reaches⟩ := hypothesis
    exact ⟨step :: steps, .step passes reaches⟩

/-- **What a view has for a name is reached along a path.** -/
theorem reaches_of_hits {view found : Value} {name : String} (hits : view.Hits access name found) :
    ∃ segments steps, Steps name segments ∧ view.Reaches access segments steps found := by
  obtain ⟨before, last, reached, segments, leads, has⟩ := hits
  obtain ⟨steps, reaches⟩ := leads.reaches
  obtain ⟨step, passes⟩ : ∃ step, reached.Passes access last step found :=
    has.elim Holds.passes fun shows => shows.2.passes
  exact ⟨before ++ [last], steps ++ [step], segments, reaches.append (.step passes .here)⟩

/-- **Whatever path the name stands for in a view that has it, leads to what the view has.** -/
theorem Hits.reached_eq {view found reached : Value} {name : String} {segments : List String}
    {steps : List PathStep} (hits : view.Hits access name found) (stands : Steps name segments)
    (reaches : view.Reaches access segments steps reached) : reached = found := by
  obtain ⟨parts, others, standAgain, there⟩ := reaches_of_hits hits
  rw [steps_iff] at stands standAgain
  rw [← stands] at standAgain
  subst standAgain
  exact (reaches.unique there).2

end Value

end Mustache
