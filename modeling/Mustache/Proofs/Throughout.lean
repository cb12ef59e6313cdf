import Mustache.Proofs.ReachedValues

/-!
**What holds throughout a view.**

A test may hold of a value and of all values in it. What the attributes of a value are and what its
methods answer is up to the host: if the test passes on to these as well, then whatever a name leads
to passes it throughout, or is a method of what does.

* `Value.throughout`: a test of a value and of all values in it.
* `Value.Closed`: a test that passes on from a value to its parts.
* `Value.Lenient`: a test that all plain values pass; it is closed.
* `Value.Obtained`: what a name may lead to.
* `Host.Keeps`: a host whose attributes and methods keep to a test.
* `Value.Closed.closes`: **what a name may lead to is closed.**
* `Frame.settle_throughout`: what comes of it.
* `kind_of_uncalled`: no value has the role of a function where nothing that can be called passes
  the test.
-/

namespace Mustache

namespace Value

mutual

/-- **A test of a value and of all values in it.** The keys of mappings do not count, as no name
leads to them. -/
def throughout (test : Value → Bool) : Value → Bool
  | items form values => test (items form values) && allThroughout test values
  | mapping entries => test (mapping entries) && entriesThroughout test entries
  | object attributes => test (object attributes) && attributesThroughout test attributes
  | knot bodies place => test (knot bodies place) && allThroughout test bodies
  | method receiver own => test (method receiver own) && throughout test receiver
  | value => test value

/-- A test of some values and of all values in them. -/
def allThroughout (test : Value → Bool) : List Value → Bool
  | [] => true
  | value :: rest => throughout test value && allThroughout test rest

/-- A test of the values of some entries. -/
def entriesThroughout (test : Value → Bool) : List (Value × Value) → Bool
  | [] => true
  | (_, value) :: rest => throughout test value && entriesThroughout test rest

/-- A test of the values of some attributes. -/
def attributesThroughout (test : Value → Bool) : List (String × Value) → Bool
  | [] => true
  | (_, value) :: rest => throughout test value && attributesThroughout test rest

end

variable {test : Value → Bool}

theorem allThroughout_iff {values : List Value} :
    allThroughout test values = true ↔ ∀ value ∈ values, value.throughout test = true := by
  induction values with
  | nil => exact ⟨fun _ => nofun, fun _ => rfl⟩
  | cons value rest hypothesis =>
    rw [allThroughout, Bool.and_eq_true, hypothesis, List.forall_mem_cons]

theorem entriesThroughout_iff {entries : List (Value × Value)} :
    entriesThroughout test entries = true ↔
      ∀ entry ∈ entries, entry.2.throughout test = true := by
  induction entries with
  | nil => exact ⟨fun _ => nofun, fun _ => rfl⟩
  | cons entry rest hypothesis =>
    rw [entriesThroughout, Bool.and_eq_true, hypothesis, List.forall_mem_cons]

theorem attributesThroughout_iff {attributes : List (String × Value)} :
    attributesThroughout test attributes = true ↔
      ∀ entry ∈ attributes, entry.2.throughout test = true := by
  induction attributes with
  | nil => exact ⟨fun _ => nofun, fun _ => rfl⟩
  | cons entry rest hypothesis =>
    rw [attributesThroughout, Bool.and_eq_true, hypothesis, List.forall_mem_cons]

theorem throughout_own {value : Value} (whole : value.throughout test = true) :
    test value = true := by
  cases value with
  | items _ _ | mapping _ | object _ | knot _ _ | method _ _ =>
    exact (Bool.and_eq_true_iff.mp whole).1
  | _ => exact whole

/-- Plain values: lists and mappings, whatever is in them, days, moments, clocks, and all scalars
but numbers shown by a text of their own. -/
def isPlain : Value → Bool
  | null | missing | bool _ | int _ none | float _ | text _ | bytes _ => true
  | items _ _ | mapping _ => true
  | date _ | moment _ | zone _ => true
  | _ => false

/-- What can be called: functions, whatever they are for, and methods. -/
def isCallable : Value → Bool
  | function _ | accessor _ | sectionLambda _ | method _ _ => true
  | _ => false

/-- **A closed test**: no value passes it, and so do the numbers of a range; and it passes on from a
list to those of its form, whatever is in them, from a mapping to those with the same keys, from a
computed property or a higher-order section to its function and from one of a knot to each of
them. -/
structure Closed (test : Value → Bool) : Prop where
  null : test null = true
  missing : test missing = true
  number (number : Int) : test (ofInt number) = true
  items {form : ListForm} {values others : List Value} : test (items form values) = true →
    test (items form others) = true
  entries {entries others : List (Value × Value)} : test (mapping entries) = true →
    others.map Prod.fst = entries.map Prod.fst → test (mapping others) = true
  accessor {callee : HostFunction} : test (.accessor callee) = true → test (.function callee) = true
  sectionLambda {callee : HostFunction} : test (.sectionLambda callee) = true →
    test (.function callee) = true
  knot {bodies : List Value} {place other : Nat} : test (.knot bodies place) = true →
    test (.knot bodies other) = true

/-- **A lenient test**: all plain values pass it; and with a computed property or a higher-order
section its function does, and with one of a knot each of them. -/
structure Lenient (test : Value → Bool) : Prop where
  plain {value : Value} : value.isPlain = true → test value = true
  accessor {callee : HostFunction} : test (.accessor callee) = true → test (.function callee) = true
  sectionLambda {callee : HostFunction} : test (.sectionLambda callee) = true →
    test (.function callee) = true
  knot {bodies : List Value} {place other : Nat} : test (.knot bodies place) = true →
    test (.knot bodies other) = true

/-- **A lenient test is closed.** -/
theorem Lenient.closed (lenient : Lenient test) : Closed test where
  null := lenient.plain rfl
  missing := lenient.plain rfl
  number _ := lenient.plain rfl
  items _ := lenient.plain rfl
  entries _ _ := lenient.plain rfl
  accessor := lenient.accessor
  sectionLambda := lenient.sectionLambda
  knot := lenient.knot

/-- **What a name may lead to**: what passes a test throughout, or a method of that. -/
inductive Obtained (test : Value → Bool) : Value → Prop
  | whole {value : Value} : value.throughout test = true → Obtained test value
  | method {receiver : Value} (name : String) : receiver.throughout test = true →
      Obtained test (method receiver name)

end Value

open Value (Obtained Closed)

/-- **A host that keeps to a test**: a public attribute of what a name may lead to is of that sort
as well, and the methods of what passes the test throughout answer nothing else. -/
structure Host.Keeps {σ : Type} (host : Host σ) (test : Value → Bool) : Prop where
  read {value part : Value} {name : String} : Obtained test value → Value.isPublic name = true →
    host.access.attribute? value name = .ok (some part) → Obtained test part
  answer {receiver value : Value} {name : String} {state : σ} : receiver.throughout test = true →
    (host.invoke receiver name state).1 = .ok value → value.throughout test = true

namespace Value

variable {test : Value → Bool} (closed : Closed test)

include closed

/-! ### Knots -/

/-- What stands in one of a knot passes the test from outside as well. -/
theorem throughout_seenFrom {bodies : List Value} {place : Nat}
    (knotted : (knot bodies place).throughout test = true) {value : Value}
    (whole : value.throughout test = true) : (seenFrom bodies value).throughout test = true := by
  cases value with
  | back other =>
    obtain ⟨own, all⟩ := Bool.and_eq_true_iff.mp knotted
    exact Bool.and_eq_true_iff.mpr ⟨closed.knot own, all⟩
  | _ => exact whole

/-- **What passes a test throughout does so in the open** as well. -/
theorem throughout_opened {value : Value} (whole : value.throughout test = true) :
    value.opened.throughout test = true := by
  cases value with
  | knot bodies place =>
    have seen := fun {value : Value} => @throughout_seenFrom test closed _ _ whole value
    obtain ⟨_, all⟩ := Bool.and_eq_true_iff.mp whole
    have body : (bodies.getD place null).throughout test = true := by
      rw [List.getD_eq_getElem?_getD]
      cases found : bodies[place]? with
      | none => exact closed.null
      | some body => exact allThroughout_iff.mp all body (List.mem_of_getElem? found)
    unfold opened
    simp only
    cases own : bodies.getD place null with
    | items form values =>
      rw [own] at body
      obtain ⟨formed, every⟩ := Bool.and_eq_true_iff.mp body
      refine Bool.and_eq_true_iff.mpr ⟨closed.items formed, allThroughout_iff.mpr ?_⟩
      intro value member
      obtain ⟨inner, inside, rfl⟩ := List.mem_map.mp member
      exact seen (allThroughout_iff.mp every inner inside)
    | mapping entries =>
      rw [own] at body
      obtain ⟨keyed, every⟩ := Bool.and_eq_true_iff.mp body
      refine Bool.and_eq_true_iff.mpr ⟨closed.entries keyed List.map_map, ?_⟩
      refine entriesThroughout_iff.mpr fun entry member => ?_
      obtain ⟨inner, inside, rfl⟩ := List.mem_map.mp member
      exact seen (entriesThroughout_iff.mp every inner inside)
    | _ => exact closed.null
  | _ => exact whole

/-! ### Steps -/

omit closed in
theorem throughout_valueUnder? {entries : List (Value × Value)} {name : String} {value : Value}
    (whole : ∀ entry ∈ entries, entry.2.throughout test = true)
    (found : valueUnder? name entries = some value) : value.throughout test = true := by
  fun_induction valueUnder? name entries with
  | case1 => cases found
  | case2 own rest => exact Option.some.inj found ▸ (List.forall_mem_cons.mp whole).1
  | case3 key own rest other hypothesis =>
    exact hypothesis (List.forall_mem_cons.mp whole).2 found
  | case4 entry rest other hypothesis =>
    exact hypothesis (List.forall_mem_cons.mp whole).2 found

omit closed in
theorem throughout_attribute? {attributes : List (String × Value)} {name : String} {value : Value}
    (whole : ∀ entry ∈ attributes, entry.2.throughout test = true)
    (found : attribute? name attributes = some value) : value.throughout test = true := by
  fun_induction attribute? name attributes with
  | case1 => cases found
  | case2 own rest => exact Option.some.inj found ▸ (List.forall_mem_cons.mp whole).1
  | case3 key own rest other hypothesis =>
    exact hypothesis (List.forall_mem_cons.mp whole).2 found

theorem throughout_mappingValue? {value part : Value} {name : String}
    (whole : value.throughout test = true) (found : value.mappingValue? name = some part) :
    part.throughout test = true := by
  have seen := throughout_opened closed whole
  unfold mappingValue? at found
  cases inside : value.opened with
  | mapping entries =>
    rw [inside] at seen found
    exact throughout_valueUnder? (entriesThroughout_iff.mp (Bool.and_eq_true_iff.mp seen).2) found
  | _ =>
    rw [inside] at found
    cases found

theorem throughout_listItem? {value item : Value} {index : Nat}
    (whole : value.throughout test = true) (found : value.listItem? index = some item) :
    item.throughout test = true := by
  have seen := throughout_opened closed whole
  unfold listItem? at found
  cases own : value.opened with
  | items form values =>
    rw [own] at seen found
    exact allThroughout_iff.mp (Bool.and_eq_true_iff.mp seen).2 item (List.mem_of_getElem? found)
  | range start stop step =>
    rw [own] at found
    simp only at found
    split at found
    · cases found
      exact closed.number _
    · cases found
  | _ =>
    rw [own] at found
    cases found

/-- **The items of what passes a test throughout.** -/
theorem throughout_listItems? {value : Value} (whole : value.throughout test = true) :
    ∀ item ∈ value.listItems?.getD [], item.throughout test = true := by
  intro item member
  obtain ⟨index, found⟩ := exists_index_of_mem member
  exact throughout_listItem? closed whole found

/-! ### Attributes -/

omit closed in
theorem wrapperAttribute?_obtained {wrapper property : Value} {callee : HostFunction}
    {name : String} (whole : wrapper.throughout test = true)
    (called : test (.function callee) = true)
    (found : Access.wrapperAttribute? wrapper callee name = some property) :
    Obtained test property := by
  unfold Access.wrapperAttribute? at found
  split at found
  · cases found
    exact .whole called
  · cases found
    exact .method _ whole
  · cases found

/-- An attribute of what passes a test throughout, where those that a host has keep to the test. -/
theorem read_obtained {access : Access} {value part : Value} {name : String}
    (reads : access.attribute? value name = .ok (some part) → Obtained test part)
    (whole : value.throughout test = true) (found : access.read value name = .ok (some part)) :
    Obtained test part := by
  cases value with
  | object attributes =>
    exact .whole (throughout_attribute?
      (attributesThroughout_iff.mp (Bool.and_eq_true_iff.mp whole).2) (Except.ok.inj found))
  | accessor callee =>
    exact wrapperAttribute?_obtained whole (closed.accessor whole) (Except.ok.inj found)
  | sectionLambda callee =>
    exact wrapperAttribute?_obtained whole (closed.sectionLambda whole) (Except.ok.inj found)
  | null | missing | items _ _ | range _ _ _ | mapping _ | knot _ _ | back _ => cases found
  | _ => exact reads found

/-- **What a name may lead to passes on** along all ways, if the host keeps to the test. -/
theorem Closed.closes {σ : Type} {host : Host σ} (keeps : host.Keeps test) :
    host.Closes (Obtained test) where
  null := .whole closed.null
  missing := .whole closed.missing
  entry here found := by
    cases here with
    | whole whole => exact .whole (throughout_mappingValue? closed whole found)
    | method name whole => cases found
  item here found := by
    cases here with
    | whole whole => exact .whole (throughout_listItem? closed whole found)
    | method name whole => cases found
  read here shown found := by
    cases here with
    | whole whole =>
      have seen := throughout_opened closed whole
      exact read_obtained closed (keeps.read (.whole seen) shown) seen found
    | method name whole => exact keeps.read (.method name whole) shown found
  answer {receiver answer name state} here answered := by
    have own : receiver.throughout test = true := by
      cases here with
      | whole whole => exact (Bool.and_eq_true_iff.mp whole).2
      | method name whole => exact whole
    cases receiver with
    | accessor callee => cases answered
    | _ => exact .whole (keeps.answer own answered)

end Value

section Settled

variable {σ : Type} {test : Value → Bool} {host : Host σ}

/-! ### What comes of it -/

/-- What a method answers passes the test throughout. -/
theorem Host.Keeps.send (keeps : host.Keeps test) {receiver value : Value} {name : String}
    {state : σ} (whole : receiver.throughout test = true)
    (answered : (host.send receiver name state).1 = .ok value) :
    value.throughout test = true := by
  cases receiver with
  | accessor callee => cases answered
  | _ => exact keeps.answer whole answered

/-- **What is obtained stands for what passes the test throughout**, if the functions of the host
answer nothing else. -/
theorem Frame.settle_throughout (closed : Closed test) (keeps : host.Keeps test)
    {view raw value : Value} {state : σ}
    (answers : ∀ function, test (.function function) = true → ∀ values,
      (∀ value ∈ values, value.throughout test = true) → ∀ state value,
        (host.apply function values state).1 = .ok value → value.throughout test = true)
    (whole : view.throughout test = true) (obtained : Obtained test raw)
    (settled : (settle host view raw state).1 = .ok value) : value.throughout test = true := by
  cases obtained with
  | method name here => exact keeps.send here settled
  | whole here =>
    cases raw with
    | accessor function =>
      exact answers function (closed.accessor here) [view]
        (List.forall_mem_singleton.mpr whole) state value settled
    | function function => exact answers function here [] nofun state value settled
    | method receiver name => exact keeps.send (Bool.and_eq_true_iff.mp here).2 settled
    | _ =>
      cases settled
      exact here

/-! ### Nothing to be called -/

/-- **Where nothing that can be called passes the test**, no value has the role of a function. -/
theorem Value.kind_of_uncalled
    (uncalled : ∀ value : Value, value.isCallable = true → test value = false)
    (closed : Closed test) {value : Value} (whole : value.throughout test = true) :
    value.kind ≠ .accessor ∧ value.kind ≠ .sectionLambda := by
  have own := throughout_own (throughout_opened closed whole)
  unfold kind
  cases inside : value.opened with
  | function _ | accessor _ | sectionLambda _ | method _ _ =>
    rw [inside, uncalled _ rfl] at own
    cases own
  | _ => exact ⟨nofun, nofun⟩

end Settled

end Mustache
