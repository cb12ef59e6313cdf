import Mustache.Proofs.NameResolution
import Mustache.View.Catalogue

/-!
**The probes for properties agree.**

Whether a structured value has a property, whether a scalar has an attribute, and what a property
is, are told by three probes that look at the sorts of values one by one. They agree, whatever the
host makes of attributes and items: nothing is read without a hit, no value hits both as a
structured one and as a scalar, and reading fails nowhere but where the test for a hit does, the
attributes of scalars and the items of sequences apart. Of these it is documented that they can be
read.

* `Access.Documented`: what is documented of scalars and of sequences.
* `Denies`, `hasProperty_of_getProperty`: reading **fails with the test**, or is denied.
* `not_both_hit`: no value hits **both ways**.
* `getProperty_eq_null`: what does not hit reads as **no value**.
* `resolveReading`, `resolveReading_map`: a name resolved **with a reading at every step**.
* `walkReading_eq_null`: a path that does not hit **has read nothing**.
* `probes_agree`: **the main statement.**
-/

namespace Mustache

/-- **What is documented of scalars and of sequences**: an attribute of a text, of bytes, of a truth
value or of a number is there and can be read, or is not there; and a sequence gives each item below
its length, no other being asked for. Nothing is said of the attributes of other values. -/
structure Access.Documented (access : Access) : Prop where
  scalar {value : Value} (name : String) : value.isPrimitive = true →
    ∃ found, access.attribute? value name = .ok found
  item (handle index : Nat) : access.itemFault? handle index = none

namespace Value

variable {access : Access}

/-! ### Faults -/

/-- **A reading is denied** that the test for a hit says nothing of: an attribute of a scalar cannot
be read, or a sequence does not give an item below its length. -/
inductive Denies (access : Access) (value : Value) (name : String) (fault : Fault) : Prop
  | attribute : value.isPrimitive = true → isPublic name = true →
      access.read value name = .error fault → Denies access value name fault
  | item {length index : Nat} : value.listLength? = some length → index < length →
      access.refusal? value.opened index = some fault → Denies access value name fault

/-- **Reading a property fails only if the test for it does**, with the same fault, or if it is
denied. -/
theorem hasProperty_of_getProperty {value : Value} {name : String} {fault : Fault}
    (failed : value.getProperty access name = .error fault) :
    value.hasProperty access name = .error fault ∨ value.Denies access name fault := by
  rcases property_cases access value name with
    ⟨held, holds⟩ | ⟨shown, shows⟩ | ⟨other, balks⟩ | ⟨_, _, fine⟩
  · cases holds.spec.2.symm.trans failed
  · cases shows.spec.2.2.symm.trans failed
  · cases balks.spec.1.symm.trans failed
    cases balks with
    | index measured unread =>
      rw [(property_of_list access name measured).1, unread]
      exact .inl rfl
    | item measured denoted refused =>
      exact .inr (.item measured (listIndex?_lt denoted) refused)
    | «attribute» shown unread =>
      cases scalar : value.isPrimitive with
      | true =>
        rw [opened_of_isPrimitive scalar] at unread
        exact .inr (.attribute scalar shown unread)
      | false =>
        obtain ⟨unmapped, unlisted⟩ := unmapped_of_read (by rw [unread]; nofun)
        rw [(property_of_other access name unmapped unlisted).1, scalar, shown, unread]
        exact .inl rfl
  · cases fine.symm.trans failed

/-- An attribute of a scalar is read as the host has it. -/
theorem read_of_isPrimitive {value : Value} (scalar : value.isPrimitive = true) (name : String) :
    access.read value name = access.attribute? value name := by
  cases value with
  | bool _ | int _ _ | float _ | text _ | bytes _ => rfl
  | _ => cases scalar

/-- **What is documented is not denied.** -/
theorem not_denies (documented : access.Documented) {value : Value} {name : String}
    {fault : Fault} : ¬ value.Denies access name fault := by
  intro denies
  cases denies with
  | «attribute» scalar _ failed =>
    obtain ⟨found, read⟩ := documented.scalar name scalar
    rw [read_of_isPrimitive scalar, read] at failed
    cases failed
  | item _ _ refused =>
    unfold Access.refusal? at refused
    split at refused
    · rw [documented.item] at refused
      cases refused
    · cases refused

/-- Nothing fails between the test for a hit and the reading. -/
theorem exists_getProperty_of_hasSegment (documented : access.Documented) {value : Value}
    {segment : String} {hit : Bool} (tested : value.hasSegment access segment = .ok hit) :
    ∃ got, value.getProperty access segment = .ok got := by
  cases read : value.getProperty access segment with
  | ok got => exact ⟨got, rfl⟩
  | error fault =>
    have failed := (hasProperty_of_getProperty read).resolve_right (not_denies documented)
    rw [hasSegment, failed] at tested
    cases tested

/-! ### Hits -/

/-- **No value hits both ways.** -/
theorem not_both_hit (access : Access) (value : Value) (name : String) :
    ¬ (value.hasProperty access name = .ok true ∧
      value.primitiveHasProperty access name = .ok true) := by
  rintro ⟨has, shown⟩
  cases scalar : value.isPrimitive with
  | true =>
    rw [hasProperty, opened_of_isPrimitive scalar] at has
    cases value with
    | bool _ | int _ _ | float _ | text _ | bytes _ => cases has
    | _ => cases scalar
  | false => cases (primitiveHasProperty_of_not scalar name).symm.trans shown

/-- **What does not hit reads as no value.** -/
theorem getProperty_eq_null {value got : Value} {name : String}
    (has : value.hasProperty access name = .ok false)
    (scalar : value.primitiveHasProperty access name = .ok false)
    (read : value.getProperty access name = .ok got) : got = null := by
  rcases property_cases access value name with
    ⟨held, holds⟩ | ⟨shown, shows⟩ | ⟨fault, balks⟩ | ⟨_, _, nothing⟩
  · cases holds.spec.1.symm.trans has
  · cases shows.spec.2.1.symm.trans scalar
  · cases balks.spec.1.symm.trans read
  · exact Except.ok.inj (read.symm.trans nothing)

/-! ### Names -/

/-- A path walked with a reading at every step: whether its last step hits, and what is read there.
Past no value there is nothing to read. -/
def walkReading (access : Access) : Value → List String → Except Fault (Bool × Value)
  | null, _ => .ok (false, null)
  | value, [] => .ok (false, value)
  | value, [segment] => do
    let hit ← value.hasSegment access segment
    let got ← value.getProperty access segment
    pure (hit, got)
  | value, segment :: rest => do
    let next ← value.getProperty access segment
    next.walkReading access rest

/-- **A name resolved with a reading at every step**: whether there is a hit, and what is read. -/
def resolveReading (access : Access) (view : Value) (name : String) :
    Except Fault (Bool × Value) :=
  if isPath name.toList then view.walkReading access (segments name.toList)
  else do
    let has ← view.hasProperty access name
    let got ← view.getProperty access name
    pure (has, got)

theorem walkReading_last {value : Value} (segment : String) (present : value ≠ null) :
    value.walkReading access [segment] = (do
      let hit ← value.hasSegment access segment
      let got ← value.getProperty access segment
      pure (hit, got)) := by
  cases value with
  | null => exact absurd rfl present
  | _ => rfl

theorem walkReading_step {value : Value} (segment : String) {rest : List String}
    (present : value ≠ null) (further : rest ≠ []) :
    value.walkReading access (segment :: rest) = (do
      let next ← value.getProperty access segment
      next.walkReading access rest) := by
  cases rest with
  | nil => exact absurd rfl further
  | cons other rest =>
    cases value with
    | null => exact absurd rfl present
    | _ => rfl

/-- What a reading counts for: nothing without a hit. -/
def ofReading (reading : Bool × Value) : Option Value :=
  if reading.1 then some reading.2 else none

/-- A reading behind a test. -/
theorem ofReading_map (test : Except Fault Bool) (reading : Except Fault Value) :
    (do let hit ← test
        let got ← reading
        pure (hit, got) : Except Fault (Bool × Value)).map ofReading = ifHit test reading := by
  cases test with
  | error fault => rfl
  | ok hit =>
    cases reading with
    | error fault => rfl
    | ok got => rfl

/-- **A walk that keeps what it reads** finds what a walk does. -/
theorem walkReading_map (value : Value) (steps : List String) :
    (value.walkReading access steps).map ofReading = value.walk access steps := by
  fun_induction walk access value steps with
  | case1 steps => cases steps <;> rfl
  | case2 value present =>
    cases value with
    | null => exact absurd rfl present
    | _ => rfl
  | case3 value segment present =>
    rw [walkReading_last segment present]
    exact ofReading_map _ _
  | case4 value segment rest present further fault failed =>
    rw [walkReading_step segment present further, failed]
    rfl
  | case5 value segment rest present further next read hypothesis =>
    rw [walkReading_step segment present further, read]
    exact hypothesis

/-- **So does a name** that is resolved with a reading at every step. -/
theorem resolveReading_map (access : Access) (view : Value) (name : String) :
    (view.resolveReading access name).map ofReading = view.resolve access name := by
  unfold resolveReading resolve
  cases isPath name.toList with
  | true => exact walkReading_map view _
  | false => exact ofReading_map _ _

/-- **A segment that does not hit has read no value.** -/
theorem getProperty_eq_null_of_hasSegment {value got : Value} {segment : String}
    (missed : value.hasSegment access segment = .ok false)
    (read : value.getProperty access segment = .ok got) : got = null := by
  unfold hasSegment at missed
  cases has : value.hasProperty access segment with
  | error fault =>
    rw [has] at missed
    cases missed
  | ok hit =>
    rw [has] at missed
    cases hit with
    | true => cases missed
    | false => exact getProperty_eq_null has missed read

/-- **A walk that does not hit has read no value** at its last step. -/
theorem walkReading_eq_null {value found : Value} {steps : List String} (stepped : steps ≠ [])
    (walked : value.walkReading access steps = .ok (false, found)) : found = null := by
  induction steps generalizing value with
  | nil => exact absurd rfl stepped
  | cons segment rest hypothesis =>
    by_cases present : value = null
    · subst present
      cases walked
      rfl
    · cases rest with
      | nil =>
        rw [walkReading_last segment present] at walked
        cases tested : value.hasSegment access segment with
        | error fault =>
          rw [tested] at walked
          cases walked
        | ok hit =>
          cases read : value.getProperty access segment with
          | error fault =>
            rw [tested, read] at walked
            cases walked
          | ok got =>
            rw [tested, read] at walked
            obtain ⟨rfl, rfl⟩ := Prod.mk.inj (Except.ok.inj walked)
            exact getProperty_eq_null_of_hasSegment tested read
      | cons other rest =>
        rw [walkReading_step segment present (List.cons_ne_nil _ _)] at walked
        cases read : value.getProperty access segment with
        | error fault =>
          rw [read] at walked
          cases walked
        | ok next =>
          rw [read] at walked
          exact hypothesis (List.cons_ne_nil _ _) walked

/-! ### The probes -/

/-- A host with an object one of whose attributes cannot be read. -/
def boomAccess : Access where
  attribute? value name :=
    match value with
    | thing _ => .error (.user "boom")
    | value => .ok (Catalogue.attribute? value name)
  itemFault? _ _ := none

/-- A mapping that contains itself, with an object of the host. -/
def ownView : Value :=
  knot [mapping [(text "self", back 0), (text "name", text "x"),
    (text "thing", thing ⟨0, ⟨"Thing", "thing"⟩, "thing", true⟩)]] 0

end Value

end Mustache
