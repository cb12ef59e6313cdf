import Mustache.Proofs.Lines
import Mustache.View.Frame

/-!
**What a name resolves to.**

A name stands for steps: a dotted name for the segments between its points, any other name for
itself alone. A view is stepped into, property by property, and has the name if the last step finds
what it asks for. Of a chain of views the nearest one that has the name decides, even if what it
has is no value.

* `Steps`: the steps that a name stands for.
* `Value.Holds`, `Value.Shows`, `Value.Balks`: the properties of structured values, those of
  scalars, and what cannot be read.
* `Value.Leads`: steps that come through without meeting no value.
* `Value.Hits`, `Value.Raises`, `Value.Misses`: what a view has for a name.
* `Value.resolve_hits`, `Value.resolve_misses`: a view gives just that.
* `Frame.Nearest`: the nearest view of a chain that does not miss a name.
* `Frame.lookup_resolves`: **the main statement.**
-/

namespace Mustache

/-! ### Names -/

/-- **A dotted name**: there is a point in it, and not at its start. -/
def Dotted (name : String) : Prop := '.' ∈ name.toList ∧ ¬ ['.'] <+: name.toList

instance (name : String) : Decidable (Dotted name) := inferInstanceAs (Decidable (_ ∧ _))

/-- **The steps that a name stands for**: a dotted name, the segments that it is put together from
with points between them; any other name, itself. -/
inductive Steps (name : String) : List String → Prop
  | whole : ¬ Dotted name → Steps name [name]
  | between {segments : List String} : Dotted name → (∀ segment ∈ segments, '.' ∉ segment.toList) →
      ".".intercalate segments = name → Steps name segments

namespace Value

theorem isPath_iff (name : String) : isPath name.toList = true ↔ Dotted name := by
  unfold isPath Dotted
  split
  · rename_i rest cut
    rw [cut]
    refine ⟨nofun, fun dotted => absurd ?_ dotted.2⟩
    exact ⟨rest, rfl⟩
  · rename_i other
    rw [List.contains_iff_mem]
    refine ⟨fun inside => ⟨inside, ?_⟩, And.left⟩
    rintro ⟨rest, cut⟩
    exact other rest cut.symm

theorem segments_eq_iff {name : String} {steps : List String} (dotted : Dotted name) :
    segments name.toList = steps ↔
      (∀ segment ∈ steps, '.' ∉ segment.toList) ∧ ".".intercalate steps = name := by
  have back : (steps.map String.toList).map String.ofList = steps := by
    rw [List.map_map]
    exact List.map_id'' (fun _ => String.ofList_toList) steps
  have cut : segments name.toList = steps ↔
      Text.splitOn '.' name.toList = steps.map String.toList := by
    constructor
    · rintro rfl
      rw [segments, List.map_map]
      exact (List.map_id'' (fun _ => String.toList_ofList) _).symm
    · intro same
      rw [segments, same, back]
  have joined : ".".intercalate steps = name ↔
      ['.'].intercalate (steps.map String.toList) = name.toList := by
    rw [← String.toList_inj, String.toList_intercalate]
    rfl
  rw [cut, Text.splitOn_eq_iff, joined, List.forall_mem_map]
  refine ⟨And.right, fun whole => ⟨?_, whole⟩⟩
  intro empty
  rw [empty] at whole
  have nowhere : '.' ∈ ([] : List Char) := by
    rw [show ([] : List Char) = name.toList from whole.2]
    exact dotted.1
  cases nowhere

/-- **The steps of a name** are those that a view takes. -/
theorem steps_iff {name : String} {steps : List String} :
    Steps name steps ↔
      steps = if isPath name.toList then segments name.toList else [name] := by
  by_cases dotted : Dotted name
  · rw [if_pos ((isPath_iff name).mpr dotted), eq_comm, segments_eq_iff dotted]
    constructor
    · intro steps
      cases steps with
      | whole plain => exact absurd dotted plain
      | between _ free joined => exact ⟨free, joined⟩
    · exact fun whole => .between dotted whole.1 whole.2
  · rw [if_neg (mt (isPath_iff name).mp dotted)]
    constructor
    · intro steps
      cases steps with
      | whole _ => rfl
      | between wrong _ _ => exact absurd wrong dotted
    · rintro rfl
      exact .whole dotted

/-! ### Properties -/

variable {access : Access}

/-- **What a value has as a structured one**: the entries of a mapping, the items of a list under
their indexes, and the public attributes of whatever is no scalar. -/
inductive Holds (access : Access) (value : Value) (name : String) (held : Value) : Prop
  | entry : value.mappingValue? name = some held → Holds access value name held
  | item {length index : Nat} : value.listLength? = some length →
      listIndex? length name = .ok (some index) → access.refusal? value.opened index = none →
      value.listItem? index = some held → Holds access value name held
  | attribute : value.opened.isPrimitive = false → isPublic name = true →
      access.read value.opened name = .ok (some held) → Holds access value name held

/-- **What a scalar has**: its public attributes. -/
def Shows (access : Access) (value : Value) (name : String) (shown : Value) : Prop :=
  value.isPrimitive = true ∧ isPublic name = true ∧ access.read value name = .ok (some shown)

/-- **A value balks at a name**, and says so with a fault: a list cannot tell what the name denotes
in it, or does not give the item; or an attribute cannot be read. -/
inductive Balks (access : Access) (value : Value) (name : String) (fault : Fault) : Prop
  | index {length : Nat} : value.listLength? = some length →
      listIndex? length name = .error fault → Balks access value name fault
  | item {length index : Nat} : value.listLength? = some length →
      listIndex? length name = .ok (some index) → access.refusal? value.opened index = some fault →
      Balks access value name fault
  | attribute : isPublic name = true → access.read value.opened name = .error fault →
      Balks access value name fault

theorem listIndex?_lt {length index : Nat} {name : String}
    (denoted : listIndex? length name = .ok (some index)) : index < length := by
  unfold listIndex? at denoted
  simp only at denoted
  split at denoted
  · cases denoted
  · split at denoted
    · cases denoted
    · split at denoted
      · cases denoted
      · split at denoted
        · cases denoted
        · split at denoted
          · cases denoted
            assumption
          · cases denoted

theorem exists_listItem {value : Value} {length index : Nat}
    (measured : value.listLength? = some length) (inside : index < length) :
    ∃ held, value.listItem? index = some held := by
  unfold listLength? at measured
  unfold listItem?
  split at measured
  · cases measured
    exact ⟨_, List.getElem?_eq_getElem inside⟩
  · cases measured
    exact ⟨_, if_pos inside⟩
  · cases measured

theorem opened_of_isPrimitive {value : Value} (scalar : value.isPrimitive = true) :
    value.opened = value := by
  cases value with
  | knot bodies place => cases scalar
  | _ => rfl

/-- What is seen of a value, is seen of what is seen. -/
theorem opened_opened (value : Value) : value.opened.opened = value.opened := by
  cases value with
  | knot bodies place =>
    unfold opened
    simp only
    cases bodies.getD place null <;> rfl
  | _ => rfl

theorem listItem?_opened (value : Value) (index : Nat) :
    value.opened.listItem? index = value.listItem? index := by
  unfold listItem?
  rw [opened_opened]

/-- One of a knot is no scalar. -/
theorem isPrimitive_opened (value : Value) : value.opened.isPrimitive = value.isPrimitive := by
  cases value with
  | knot bodies place =>
    unfold opened
    simp only
    cases bodies.getD place null <;> rfl
  | _ => rfl

/-- A scalar has no length. -/
theorem listLength?_of_isPrimitive {value : Value} (scalar : value.isPrimitive = true) :
    value.listLength? = none := by
  cases value with
  | bool _ | int _ _ | float _ | text _ | bytes _ => rfl
  | _ => cases scalar

theorem primitiveHasProperty_of_not {value : Value} (structured : value.isPrimitive = false)
    (name : String) : value.primitiveHasProperty access name = .ok false := by
  unfold primitiveHasProperty
  rw [structured]
  rfl

/-- The properties of a list are its items. -/
theorem property_of_list (access : Access) {value : Value} {length : Nat} (name : String)
    (measured : value.listLength? = some length) :
    value.hasProperty access name = (listIndex? length name).map Option.isSome ∧
      value.getProperty access name = value.opened.itemNamed access length name := by
  unfold listLength? at measured
  unfold hasProperty getProperty
  cases opened : value.opened with
  | items form values =>
    rw [opened] at measured
    cases measured
    exact ⟨rfl, rfl⟩
  | range start stop step =>
    rw [opened] at measured
    cases measured
    exact ⟨rfl, rfl⟩
  | _ =>
    rw [opened] at measured
    cases measured

/-- The properties of a mapping are its entries. -/
theorem property_of_mapping (access : Access) {value : Value} {entries : List (Value × Value)}
    (name : String)
    (opened : value.opened = mapping entries) :
    value.hasProperty access name = .ok (value.mappingValue? name).isSome ∧
      value.getProperty access name = .ok ((value.mappingValue? name).getD null) := by
  unfold hasProperty getProperty mappingValue?
  rw [opened]
  exact ⟨rfl, rfl⟩

/-- Every other value has attributes, which do not count as properties of a scalar. -/
theorem property_of_other (access : Access) {value : Value} (name : String) (unmapped : ∀ entries,
    value.opened ≠ mapping entries) (unlisted : value.listLength? = none) :
    value.hasProperty access name =
        (if !value.isPrimitive && isPublic name then
          (access.read value.opened name).map Option.isSome else .ok false) ∧
      value.getProperty access name =
        (if isPublic name then
          (access.read value.opened name).map fun found => found.getD null else .ok null) := by
  rw [← isPrimitive_opened]
  unfold listLength? at unlisted
  unfold hasProperty getProperty
  cases opened : value.opened with
  | mapping entries => exact absurd opened (unmapped entries)
  | items form values =>
    rw [opened] at unlisted
    cases unlisted
  | range start stop step =>
    rw [opened] at unlisted
    cases unlisted
  | null | missing => cases isPublic name <;> exact ⟨rfl, rfl⟩
  | _ => exact ⟨rfl, rfl⟩

/-- An attribute belongs to a value that is neither a mapping nor a list. -/
theorem unmapped_of_read {value : Value} {name : String}
    (asked : access.read value.opened name ≠ .ok none) :
    (∀ entries, value.opened ≠ mapping entries) ∧ value.listLength? = none := by
  unfold listLength?
  cases opened : value.opened with
  | mapping _ | items _ _ | range _ _ _ =>
    rw [opened] at asked
    exact absurd rfl asked
  | _ => exact ⟨nofun, rfl⟩

theorem Holds.spec {value held : Value} {name : String} (holds : value.Holds access name held) :
    value.hasProperty access name = .ok true ∧ value.getProperty access name = .ok held := by
  cases holds with
  | entry under =>
    cases opened : value.opened with
    | mapping entries =>
      obtain ⟨has, get⟩ := property_of_mapping access name opened
      rw [has, get, under]
      exact ⟨rfl, rfl⟩
    | _ =>
      rw [mappingValue?, opened] at under
      cases under
  | item measured denoted given here =>
    obtain ⟨has, get⟩ := property_of_list access name measured
    rw [has, get, itemNamed, denoted]
    simp only [Access.item, given, listItem?_opened, here]
    exact ⟨rfl, rfl⟩
  | «attribute» structured shown here =>
    obtain ⟨unmapped, unlisted⟩ := unmapped_of_read (by rw [here]; nofun)
    obtain ⟨has, get⟩ := property_of_other access name unmapped unlisted
    rw [isPrimitive_opened] at structured
    rw [has, get, structured, shown, here]
    exact ⟨rfl, rfl⟩

theorem Shows.spec {value shown : Value} {name : String} (shows : value.Shows access name shown) :
    value.hasProperty access name = .ok false ∧
      value.primitiveHasProperty access name = .ok true ∧
      value.getProperty access name = .ok shown := by
  obtain ⟨scalar, visible, here⟩ := shows
  have seen : access.read value.opened name = .ok (some shown) := by
    rw [opened_of_isPrimitive scalar, here]
  obtain ⟨unmapped, unlisted⟩ := unmapped_of_read (by rw [seen]; nofun)
  obtain ⟨has, get⟩ := property_of_other access name unmapped unlisted
  rw [has, get, primitiveHasProperty, seen, here, scalar, visible]
  exact ⟨rfl, rfl, rfl⟩

theorem item_of_refused {value : Value} {index : Nat} {fault : Fault}
    (refused : access.refusal? value index = some fault) :
    access.item value index = .error fault := by
  rw [Access.item, refused]

/-- **A value that balks cannot be read**, and no test of it has another fault. -/
theorem Balks.spec {value : Value} {name : String} {fault : Fault}
    (balks : value.Balks access name fault) :
    value.getProperty access name = .error fault ∧
      (∀ cause, value.hasProperty access name = .error cause → cause = fault) ∧
      ∀ cause, value.primitiveHasProperty access name = .error cause → cause = fault := by
  have unlisted : ∀ {length}, value.listLength? = some length → value.isPrimitive = false := by
    intro length measured
    refine Bool.eq_false_iff.mpr fun scalar => ?_
    cases (listLength?_of_isPrimitive scalar).symm.trans measured
  cases balks with
  | index measured failed =>
    obtain ⟨has, get⟩ := property_of_list access name measured
    rw [has, get, itemNamed, failed, primitiveHasProperty_of_not (unlisted measured)]
    exact ⟨rfl, fun _ same => (Except.error.inj same).symm, nofun⟩
  | item measured denoted refused =>
    obtain ⟨has, get⟩ := property_of_list access name measured
    rw [has, get, itemNamed, denoted, primitiveHasProperty_of_not (unlisted measured)]
    exact ⟨item_of_refused refused, nofun, nofun⟩
  | «attribute» shown failed =>
    obtain ⟨unmapped, unlisted⟩ := unmapped_of_read (by rw [failed]; nofun)
    obtain ⟨has, get⟩ := property_of_other access name unmapped unlisted
    rw [has, get, failed, shown]
    cases scalar : value.isPrimitive with
    | true =>
      rw [opened_of_isPrimitive scalar] at failed
      rw [primitiveHasProperty, scalar, shown, failed]
      exact ⟨rfl, nofun, fun _ same => (Except.error.inj same).symm⟩
    | false =>
      rw [primitiveHasProperty_of_not scalar]
      exact ⟨rfl, fun _ same => (Except.error.inj same).symm, nofun⟩

/-- **A value lacks a name**: neither test hits, and what is read is no value. -/
def Lacks (access : Access) (value : Value) (name : String) : Prop :=
  value.hasProperty access name = .ok false ∧ value.primitiveHasProperty access name = .ok false ∧
    value.getProperty access name = .ok null

/-- The items of a list are there, or it balks, or the name denotes none. -/
theorem property_cases_of_list {value : Value} {length : Nat}
    (measured : value.listLength? = some length) (name : String) :
    (∃ held, value.Holds access name held) ∨ (∃ fault, value.Balks access name fault) ∨
      value.Lacks access name := by
  obtain ⟨has, get⟩ := property_of_list access name measured
  cases denoted : listIndex? length name with
  | error fault => exact .inr (.inl ⟨fault, .index measured denoted⟩)
  | ok index =>
    cases index with
    | none =>
      have structured : value.isPrimitive = false := by
        refine Bool.eq_false_iff.mpr fun scalar => ?_
        cases (listLength?_of_isPrimitive scalar).symm.trans measured
      rw [denoted] at has
      rw [itemNamed, denoted] at get
      exact .inr (.inr ⟨has, primitiveHasProperty_of_not structured name, get⟩)
    | some index =>
      cases given : access.refusal? value.opened index with
      | some fault => exact .inr (.inl ⟨fault, .item measured denoted given⟩)
      | none =>
        obtain ⟨held, here⟩ := exists_listItem measured (listIndex?_lt denoted)
        exact .inl ⟨held, .item measured denoted given here⟩

/-- **A property is held, or shown by a scalar, or the value balks, or it lacks the name.** -/
theorem property_cases (access : Access) (value : Value) (name : String) :
    (∃ held, value.Holds access name held) ∨ (∃ shown, value.Shows access name shown) ∨
      (∃ fault, value.Balks access name fault) ∨ value.Lacks access name := by
  cases measured : value.listLength? with
  | some length => exact (property_cases_of_list measured name).imp_right .inr
  | none =>
    by_cases mapped : ∃ entries, value.opened = mapping entries
    · obtain ⟨entries, opened⟩ := mapped
      obtain ⟨has, get⟩ := property_of_mapping access name opened
      cases under : value.mappingValue? name with
      | some held => exact .inl ⟨held, .entry under⟩
      | none =>
        have structured : value.isPrimitive = false := by
          rw [← isPrimitive_opened, opened]
          rfl
        rw [under] at has get
        exact .inr (.inr (.inr ⟨has, primitiveHasProperty_of_not structured name, get⟩))
    · obtain ⟨has, get⟩ := property_of_other access name
        (fun entries opened => mapped ⟨entries, opened⟩) measured
      have tested : ∀ scalar : value.isPrimitive = true, access.read value name =
          access.read value.opened name := fun scalar => by rw [opened_of_isPrimitive scalar]
      cases shown : isPublic name with
      | false =>
        refine .inr (.inr (.inr ⟨?_, ?_, ?_⟩))
        · rw [has, shown, Bool.and_false]
          rfl
        · rw [primitiveHasProperty, shown, Bool.and_false]
          rfl
        · rw [get, shown]
          rfl
      | true =>
        cases here : access.read value.opened name with
        | error fault => exact .inr (.inr (.inl ⟨fault, .attribute shown here⟩))
        | ok found =>
          cases scalar : value.isPrimitive with
          | true =>
            rw [← tested scalar] at here
            cases found with
            | some held => exact .inr (.inl ⟨held, scalar, shown, here⟩)
            | none =>
              refine .inr (.inr (.inr ⟨?_, ?_, ?_⟩))
              · rw [has, scalar]
                rfl
              · rw [primitiveHasProperty, scalar, shown, here]
                rfl
              · rw [get, shown, ← tested scalar, here]
                rfl
          | false =>
            cases found with
            | some held =>
              exact .inl ⟨held, .attribute ((isPrimitive_opened value).trans scalar) shown here⟩
            | none =>
              refine .inr (.inr (.inr ⟨?_, primitiveHasProperty_of_not scalar name, ?_⟩))
              · rw [has, scalar, shown, here]
                rfl
              · rw [get, shown, here]
                rfl

theorem balks_or_get (access : Access) (value : Value) (name : String) :
    (∃ fault, value.Balks access name fault) ∨ ∃ got, value.getProperty access name = .ok got := by
  rcases value.property_cases access name with ⟨held, holds⟩ | ⟨shown, shows⟩ | balks | lacks
  · exact .inr ⟨held, holds.spec.2⟩
  · exact .inr ⟨shown, shows.spec.2.2⟩
  · exact .inl balks
  · exact .inr ⟨null, lacks.2.2⟩

/-! ### What a view has -/

/-- **Steps that come through**: each is taken from a value and not from no value. -/
inductive Leads (access : Access) : Value → List String → Value → Prop
  | here {value : Value} : value ≠ null → Leads access value [] value
  | step {value next reached : Value} {segment : String} {rest : List String} :
      value ≠ null → value.getProperty access segment = .ok next → Leads access next rest reached →
      Leads access value (segment :: rest) reached

/-- **A view has a name**: all steps but the last come through, and what is reached has the last
one, as a structured value or, at the end of a dotted name, as a scalar. -/
def Hits (access : Access) (view : Value) (name : String) (found : Value) : Prop :=
  ∃ before last reached, Steps name (before ++ [last]) ∧ view.Leads access before reached ∧
    (reached.Holds access last found ∨ Dotted name ∧ reached.Shows access last found)

/-- **A view fails with a name**: some steps come through, up to a value that balks at the next
one. -/
def Raises (access : Access) (view : Value) (name : String) (fault : Fault) : Prop :=
  ∃ before segment after reached, Steps name (before ++ segment :: after) ∧
    view.Leads access before reached ∧ reached.Balks access segment fault

/-- **A view has nothing for a name.** -/
def Misses (access : Access) (view : Value) (name : String) : Prop :=
  (∀ found, ¬ view.Hits access name found) ∧ ∀ fault, ¬ view.Raises access name fault

theorem walk_single {value : Value} (present : value ≠ null) (segment : String) :
    value.walk access [segment] =
      ifHit (value.hasSegment access segment) (value.getProperty access segment) := by
  cases value with
  | null => exact absurd rfl present
  | _ => rfl

theorem walk_null (steps : List String) : null.walk access steps = .ok none := by
  cases steps <;> rfl

theorem walk_step (value : Value) (segment : String) {rest : List String} (further : rest ≠ []) :
    value.walk access (segment :: rest) =
      match value.getProperty access segment with
      | .error fault => .error fault
      | .ok next => next.walk access rest := by
  obtain ⟨next, more, rfl⟩ := List.exists_cons_of_ne_nil further
  cases value <;> rfl

/-- Steps that come through are passed on the way. -/
theorem Leads.walk_append {value reached : Value} {before rest : List String}
    (leads : value.Leads access before reached) (further : rest ≠ []) :
    value.walk access (before ++ rest) = reached.walk access rest := by
  induction leads with
  | here _ => rfl
  | step _ got _ hypothesis =>
    rw [List.cons_append, walk_step _ _ (List.append_ne_nil_of_right_ne_nil _ further), got]
    exact hypothesis

theorem Leads.reached_ne_null {value reached : Value} {segments : List String}
    (leads : value.Leads access segments reached) : reached ≠ null := by
  induction leads with
  | here present => exact present
  | step _ _ _ hypothesis => exact hypothesis

theorem walk_last {value found : Value} {segment : String} (present : value ≠ null)
    (has : value.Holds access segment found ∨ value.Shows access segment found) :
    value.walk access [segment] = .ok (some found) := by
  rw [walk_single present, hasSegment]
  rcases has with holds | shows
  · rw [holds.spec.1, holds.spec.2]
    rfl
  · rw [shows.spec.1, shows.spec.2.1, shows.spec.2.2]
    rfl

/-- What cannot be read fails, if a test of it can only fail likewise. -/
theorem ifHit_of_error {test : Except Fault Bool} {fault : Fault}
    (only : ∀ cause, test = .error cause → cause = fault) :
    ifHit test (.error fault) = .error fault := by
  cases test with
  | error cause =>
    rw [only cause rfl]
    rfl
  | ok _ => rfl

theorem Balks.hasSegment {value : Value} {segment : String} {fault : Fault}
    (balks : value.Balks access segment fault) {cause : Fault}
    (failed : value.hasSegment access segment = .error cause) : cause = fault := by
  unfold Value.hasSegment at failed
  cases has : value.hasProperty access segment with
  | error other =>
    rw [has] at failed
    cases failed
    exact balks.spec.2.1 cause has
  | ok hit =>
    rw [has] at failed
    cases hit with
    | true => cases failed
    | false => exact balks.spec.2.2 cause failed

theorem walk_balks {value : Value} {segment : String} {fault : Fault} (present : value ≠ null)
    (balks : value.Balks access segment fault) (rest : List String) :
    value.walk access (segment :: rest) = .error fault := by
  cases rest with
  | nil =>
    rw [walk_single present, balks.spec.1]
    exact ifHit_of_error fun _ => balks.hasSegment
  | cons next rest =>
    rw [walk_step value segment (List.cons_ne_nil next rest), balks.spec.1]

/-- **A walk finds something, or a value balks, or there is nothing**; the first two come about
where the steps before have come through. -/
theorem walk_cases (access : Access) (value : Value) (steps : List String) :
    (∃ found before last reached, steps = before ++ [last] ∧ value.Leads access before reached ∧
        (reached.Holds access last found ∨ reached.Shows access last found)) ∨
      (∃ fault before segment after reached, steps = before ++ segment :: after ∧
        value.Leads access before reached ∧ reached.Balks access segment fault) ∨
      value.walk access steps = .ok none := by
  induction steps generalizing value with
  | nil =>
    refine .inr (.inr ?_)
    cases value <;> rfl
  | cons segment rest hypothesis =>
    by_cases present : value = null
    · rw [present]
      exact .inr (.inr (walk_null _))
    · have here : value.Leads access [] value := .here present
      cases rest with
      | nil =>
        rcases property_cases access value segment with
          ⟨held, holds⟩ | ⟨shown, shows⟩ | ⟨fault, balks⟩ | ⟨has, scalar, get⟩
        · exact .inl ⟨held, [], segment, value, rfl, here, .inl holds⟩
        · exact .inl ⟨shown, [], segment, value, rfl, here, .inr shows⟩
        · exact .inr (.inl ⟨fault, [], segment, [], value, rfl, here, balks⟩)
        · refine .inr (.inr ?_)
          rw [walk_single present, hasSegment, has, scalar, get]
          rfl
      | cons next rest =>
        have further : next :: rest ≠ [] := List.cons_ne_nil next rest
        rcases balks_or_get access value segment with ⟨fault, balks⟩ | ⟨inner, got⟩
        · exact .inr (.inl ⟨fault, [], segment, next :: rest, value, rfl, here, balks⟩)
        · rw [walk_step value segment further, got]
          rcases hypothesis inner with
            ⟨found, before, last, reached, cut, leads, has⟩ |
            ⟨fault, before, later, after, reached, cut, leads, balks⟩ | nothing
          · exact .inl ⟨found, segment :: before, last, reached, congrArg (segment :: ·) cut,
              .step present got leads, has⟩
          · exact .inr (.inl ⟨fault, segment :: before, later, after, reached,
              congrArg (segment :: ·) cut, .step present got leads, balks⟩)
          · exact .inr (.inr nothing)

theorem resolve_dotted {name : String} (dotted : Dotted name) (view : Value) :
    view.resolve access name = view.walk access (segments name.toList) := by
  rw [resolve, if_pos ((isPath_iff name).mpr dotted)]

theorem resolve_plain {name : String} (plain : ¬ Dotted name) (view : Value) :
    view.resolve access name = view.ownProperty access name := by
  rw [resolve, if_neg (mt (isPath_iff name).mp plain)]

theorem steps_dotted {name : String} {steps : List String} (dotted : Dotted name) :
    Steps name steps ↔ segments name.toList = steps := by
  rw [steps_iff, if_pos ((isPath_iff name).mpr dotted), eq_comm]

/-- A name without segments stands for one step. -/
theorem only_step {name step : String} {before after : List String}
    (steps : Steps name (before ++ step :: after)) (plain : ¬ Dotted name) :
    before = [] ∧ step = name ∧ after = [] := by
  rw [steps_iff, if_neg (mt (isPath_iff name).mp plain)] at steps
  obtain ⟨first, rest⟩ | ⟨_, _, later⟩ := List.append_eq_cons_iff.mp steps
  · cases rest
    exact ⟨first, rfl, rfl⟩
  · cases (List.append_eq_nil_iff.mp later.symm).2

theorem resolve_of_hits {view found : Value} {name : String} (hits : view.Hits access name found) :
    view.resolve access name = .ok (some found) := by
  obtain ⟨before, last, reached, steps, leads, has⟩ := hits
  by_cases dotted : Dotted name
  · have has : reached.Holds access last found ∨ reached.Shows access last found :=
      has.imp_right And.right
    rw [resolve_dotted dotted, (steps_dotted dotted).mp steps,
      leads.walk_append (List.cons_ne_nil last [])]
    exact walk_last leads.reached_ne_null has
  · obtain ⟨rfl, rfl, _⟩ := only_step steps dotted
    cases leads
    have holds := has.resolve_right fun wrong => dotted wrong.1
    rw [resolve_plain dotted, ownProperty, holds.spec.1, holds.spec.2]
    rfl

theorem resolve_of_raises {view : Value} {name : String} {fault : Fault}
    (raises : view.Raises access name fault) : view.resolve access name = .error fault := by
  obtain ⟨before, segment, after, reached, steps, leads, balks⟩ := raises
  by_cases dotted : Dotted name
  · rw [resolve_dotted dotted, (steps_dotted dotted).mp steps,
      leads.walk_append (List.cons_ne_nil segment after)]
    exact walk_balks leads.reached_ne_null balks after
  · obtain ⟨rfl, rfl, _⟩ := only_step steps dotted
    cases leads
    rw [resolve_plain dotted, ownProperty, balks.spec.1]
    exact ifHit_of_error balks.spec.2.1

/-- **A view has a name, or fails with it, or has nothing for it.** -/
theorem resolve_cases (access : Access) (view : Value) (name : String) :
    (∃ found, view.Hits access name found) ∨ (∃ fault, view.Raises access name fault) ∨
      view.resolve access name = .ok none := by
  by_cases dotted : Dotted name
  · rcases walk_cases access view (segments name.toList) with
      ⟨found, before, last, reached, cut, leads, has⟩ |
      ⟨fault, before, segment, after, reached, cut, leads, balks⟩ | nothing
    · exact .inl ⟨found, before, last, reached, (steps_dotted dotted).mpr cut, leads,
        has.imp_right fun shows => ⟨dotted, shows⟩⟩
    · exact .inr (.inl ⟨fault, before, segment, after, reached, (steps_dotted dotted).mpr cut,
        leads, balks⟩)
    · rw [resolve_dotted dotted]
      exact .inr (.inr nothing)
  · have steps : Steps name [name] := .whole dotted
    by_cases present : view = null
    · rw [resolve_plain dotted, present]
      exact .inr (.inr rfl)
    · rcases property_cases access view name with
        ⟨held, holds⟩ | ⟨shown, shows⟩ | ⟨fault, balks⟩ | ⟨has, _, get⟩
      · exact .inl ⟨held, [], name, view, steps, .here present, .inl holds⟩
      · rw [resolve_plain dotted, ownProperty, shows.spec.1, shows.spec.2.2]
        exact .inr (.inr rfl)
      · exact .inr (.inl ⟨fault, [], name, [], view, steps, .here present, balks⟩)
      · rw [resolve_plain dotted, ownProperty, has, get]
        exact .inr (.inr rfl)

theorem resolve_hits {view found : Value} {name : String} :
    view.resolve access name = .ok (some found) ↔ view.Hits access name found := by
  refine ⟨fun resolved => ?_, resolve_of_hits⟩
  rcases resolve_cases access view name with ⟨held, hits⟩ | ⟨fault, raises⟩ | nothing
  · rw [resolve_of_hits hits] at resolved
    cases resolved
    exact hits
  · rw [resolve_of_raises raises] at resolved
    cases resolved
  · rw [nothing] at resolved
    cases resolved

theorem resolve_misses {view : Value} {name : String} :
    view.resolve access name = .ok none ↔ view.Misses access name := by
  constructor
  · intro resolved
    constructor
    · intro found hits
      rw [resolve_of_hits hits] at resolved
      cases resolved
    · intro fault raises
      rw [resolve_of_raises raises] at resolved
      cases resolved
  · intro misses
    rcases resolve_cases access view name with ⟨found, hits⟩ | ⟨fault, raises⟩ | nothing
    · exact absurd hits (misses.1 found)
    · exact absurd raises (misses.2 fault)
    · exact nothing

/-- A dotted name has more than one segment. -/
theorem further_steps {name first : String} {rest : List String}
    (steps : Steps name (first :: rest)) (dotted : Dotted name) : rest ≠ [] := by
  rintro rfl
  cases steps with
  | whole plain => exact plain dotted
  | between _ free joined =>
    have same : first = name := joined
    exact free first List.mem_cons_self (same ▸ dotted.1)

/-- **A dotted name depends on a view by its first segment only.** -/
theorem resolve_first {name first : String} {rest : List String} (dotted : Dotted name)
    (steps : Steps name (first :: rest)) (view : Value) :
    view.resolve access name =
      match view.getProperty access first with
      | .error fault => .error fault
      | .ok next => next.walk access rest := by
  rw [resolve_dotted dotted, (steps_dotted dotted).mp steps]
  exact walk_step _ _ (further_steps steps dotted)

end Value

namespace Frame

/-! ### What a chain of views has -/

variable {access : Access}

/-- **The nearest view of a chain that does not miss a name**, where every nearer one does. -/
def Nearest (access : Access) (name : String) (views : List Value) (nearest : Value) : Prop :=
  ∃ inner outer, views = inner ++ nearest :: outer ∧ ∀ missed ∈ inner, missed.Misses access name

theorem find_misses {name : String} {extra : List Value}
    (misses : ∀ missed ∈ extra, missed.Misses access name) (outer : List Value) :
    find access name (extra ++ outer) = find access name outer := by
  induction extra with
  | nil => rfl
  | cons view rest hypothesis =>
    rw [List.cons_append, find, Value.resolve_misses.mpr (misses view List.mem_cons_self)]
    exact hypothesis fun missed member => misses missed (List.mem_cons_of_mem _ member)

/-- **Views that miss a name can be put in and taken out.** -/
theorem find_insert {name : String} {extra : List Value}
    (misses : ∀ missed ∈ extra, missed.Misses access name) (inner outer : List Value) :
    find access name (inner ++ extra ++ outer) = find access name (inner ++ outer) := by
  induction inner with
  | nil => exact find_misses misses outer
  | cons view rest hypothesis =>
    simp only [List.cons_append, find]
    rw [hypothesis]

/-- **The nearest view that does not miss a name decides**: the value it has is found, or the fault
it raises; if all of them miss it, the name is missing. -/
structure Resolved (access : Access) (name : String) (views : List Value)
    (answer : Except Fault Value) : Prop where
  value : ∀ value, answer = .ok value ↔
    (∃ nearest, Nearest access name views nearest ∧ nearest.Hits access name value) ∨
      value = .missing ∧ ∀ missed ∈ views, missed.Misses access name
  fault : ∀ fault, answer = .error fault ↔
    ∃ nearest, Nearest access name views nearest ∧ nearest.Raises access name fault
  /-- Where no view fails with the name, there is an answer. -/
  answered : (∀ view ∈ views, ∀ fault, ¬ view.Raises access name fault) →
    ∃ value, answer = .ok value

theorem find_missing {name : String} {views : List Value}
    (misses : ∀ missed ∈ views, missed.Misses access name) :
    find access name views = .ok .missing := by
  have all := find_misses misses []
  rw [List.append_nil] at all
  exact all

theorem find_hits {name : String} {views : List Value} {nearest value : Value}
    (near : Nearest access name views nearest) (hits : nearest.Hits access name value) :
    find access name views = .ok value := by
  obtain ⟨inner, outer, rfl, misses⟩ := near
  rw [find_misses misses, find, Value.resolve_of_hits hits]

theorem find_raises {name : String} {views : List Value} {nearest : Value} {fault : Fault}
    (near : Nearest access name views nearest) (raises : nearest.Raises access name fault) :
    find access name views = .error fault := by
  obtain ⟨inner, outer, rfl, misses⟩ := near
  rw [find_misses misses, find, Value.resolve_of_raises raises]

/-- A chain misses a name altogether, or one of its views is the nearest that does not. -/
theorem nearest_cases (access : Access) (name : String) (views : List Value) :
    (∀ missed ∈ views, missed.Misses access name) ∨
      (∃ nearest value, Nearest access name views nearest ∧ nearest.Hits access name value) ∨
      ∃ nearest fault, Nearest access name views nearest ∧ nearest.Raises access name fault := by
  induction views with
  | nil => exact .inl fun _ member => by cases member
  | cons view outer hypothesis =>
    have here : Nearest access name (view :: outer) view := ⟨[], outer, rfl, nofun⟩
    rcases Value.resolve_cases access view name with ⟨value, hits⟩ | ⟨fault, raises⟩ | nothing
    · exact .inr (.inl ⟨view, value, here, hits⟩)
    · exact .inr (.inr ⟨view, fault, here, raises⟩)
    · have misses := Value.resolve_misses.mp nothing
      have further : ∀ {nearest}, Nearest access name outer nearest →
          Nearest access name (view :: outer) nearest := by
        rintro nearest ⟨inner, rest, rfl, before⟩
        exact ⟨view :: inner, rest, rfl, List.forall_mem_cons.mpr ⟨misses, before⟩⟩
      rcases hypothesis with all | ⟨nearest, value, near, hits⟩ | ⟨nearest, fault, near, raises⟩
      · exact .inl (List.forall_mem_cons.mpr ⟨misses, all⟩)
      · exact .inr (.inl ⟨nearest, value, further near, hits⟩)
      · exact .inr (.inr ⟨nearest, fault, further near, raises⟩)

theorem find_eq_ok_iff {name : String} {views : List Value} {value : Value} :
    find access name views = .ok value ↔
      (∃ nearest, Nearest access name views nearest ∧ nearest.Hits access name value) ∨
        value = .missing ∧ ∀ missed ∈ views, missed.Misses access name := by
  constructor
  · intro found
    rcases nearest_cases access name views with misses | ⟨nearest, held, near, hits⟩ |
      ⟨nearest, fault, near, raises⟩
    · rw [find_missing misses] at found
      cases found
      exact .inr ⟨rfl, misses⟩
    · rw [find_hits near hits] at found
      cases found
      exact .inl ⟨nearest, near, hits⟩
    · rw [find_raises near raises] at found
      cases found
  · rintro (⟨nearest, near, hits⟩ | ⟨rfl, misses⟩)
    · exact find_hits near hits
    · exact find_missing misses

theorem find_eq_error_iff {name : String} {views : List Value} {fault : Fault} :
    find access name views = .error fault ↔
      ∃ nearest, Nearest access name views nearest ∧ nearest.Raises access name fault := by
  refine ⟨fun failed => ?_, fun ⟨nearest, near, raises⟩ => find_raises near raises⟩
  rcases nearest_cases access name views with misses | ⟨nearest, held, near, hits⟩ |
    ⟨nearest, cause, near, raises⟩
  · rw [find_missing misses] at failed
    cases failed
  · rw [find_hits near hits] at failed
    cases failed
  · rw [find_raises near raises] at failed
    cases failed
    exact ⟨nearest, near, raises⟩

theorem find_resolved (access : Access) (name : String) (views : List Value) :
    Resolved access name views (find access name views) where
  value _ := find_eq_ok_iff
  fault _ := find_eq_error_iff
  answered free := by
    cases found : find access name views with
    | ok value => exact ⟨value, rfl⟩
    | error fault =>
      obtain ⟨nearest, ⟨inner, outer, rfl, _⟩, raises⟩ := find_eq_error_iff.mp found
      exact absurd raises (free nearest (List.mem_append_right inner List.mem_cons_self) fault)

/-- A frame that does not remember a name looks for it along the views. -/
theorem lookup_fresh {name : String} (other : name ≠ ".") {memo : Memo}
    (fresh : memo.lookup name = none) (view : Value) (outer : List Value) :
    (lookup access view outer memo name).1 = find access name (view :: outer) := by
  unfold lookup
  rw [if_neg other, fresh]
  simp only
  split
  · rename_i failed
    exact failed.symm
  · rename_i found
    exact found.symm

/-- **A name resolves to what the nearest view has that does not miss it.** Views that miss it can
be put in and taken out anywhere in the chain. What a view has for a dotted name is what its first
segment leads to, whatever else there is in it: a view without that segment misses the name. -/
theorem lookup_resolves {name : String} (other : name ≠ ".") {memo : Memo}
    (fresh : memo.lookup name = none) (view : Value) (outer : List Value) :
    Resolved access name (view :: outer) (lookup access view outer memo name).1 ∧
      (∀ inner extra rest, view :: outer = inner ++ extra ++ rest →
        (∀ missed ∈ extra, missed.Misses access name) → ∀ top below, top :: below = inner ++ rest →
          (lookup access top below memo name).1 = (lookup access view outer memo name).1) ∧
      (Dotted name → ∀ first rest, Steps name (first :: rest) →
        (∀ beside : Value, view.getProperty access first = beside.getProperty access first →
          ∀ found, view.Hits access name found ↔ beside.Hits access name found) ∧
        (view.getProperty access first = .ok .null → view.Misses access name)) := by
  rw [lookup_fresh other fresh]
  refine ⟨find_resolved access name _, ?_, ?_⟩
  · intro inner extra rest cut misses top below same
    rw [lookup_fresh other fresh, same, cut, find_insert misses]
  · intro dotted first rest steps
    constructor
    · intro beside same found
      rw [← Value.resolve_hits, ← Value.resolve_hits, Value.resolve_first dotted steps,
        Value.resolve_first dotted steps, same]
    · intro absent
      rw [← Value.resolve_misses, Value.resolve_first dotted steps, absent]
      exact Value.walk_null rest

/-- An inner `b` is not the `b` of `a`, and the nearest `a.b` covers the outer one although it is no
value. -/
theorem lookup_resolves_covered :
    let access : Access := .ofTable fun _ _ => none
    let top : Value := .mapping [(.text "b", .ofInt 1)]
    let middle : Value := .mapping [(.text "a", .mapping [(.text "b", .null)])]
    let bottom : Value := .mapping [(.text "a", .mapping [(.text "b", .ofInt 2)])]
    "a.b" ≠ "." ∧ ([] : Memo).lookup "a.b" = none ∧ top.Misses access "a.b" ∧
      middle.Hits access "a.b" .null ∧
      (lookup access top [middle, bottom] [] "a.b").1 = .ok .null ∧
      (lookup access middle [bottom] [] "a.b").1 = .ok .null := by
  intro access top middle bottom
  have other : "a.b" ≠ "." := by decide
  have dotted : Dotted "a.b" := by decide
  have steps : Steps "a.b" ["a", "b"] := .between dotted (by decide) (by decide)
  have fresh : ([] : Memo).lookup "a.b" = none := rfl
  obtain ⟨resolved, moved, first⟩ := lookup_resolves other fresh top [middle, bottom]
  have misses : top.Misses access "a.b" := (first dotted "a" ["b"] steps).2 rfl
  have hits : middle.Hits access "a.b" .null :=
    ⟨["a"], "b", .mapping [(.text "b", .null)], steps,
      .step nofun rfl (.here nofun), .inl (.entry rfl)⟩
  have near : Nearest access "a.b" [top, middle, bottom] middle :=
    ⟨[top], [bottom], rfl, List.forall_mem_singleton.mpr misses⟩
  have found := (resolved.value .null).mpr (.inl ⟨middle, near, hits⟩)
  have again := moved [] [top] [middle, bottom] rfl (List.forall_mem_singleton.mpr misses)
    middle [bottom] rfl
  exact ⟨other, fresh, misses, hits, found, again.trans found⟩

end Frame

end Mustache
