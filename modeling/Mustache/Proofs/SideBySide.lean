import Mathlib.Data.List.Forall2
import Mustache.Render.Session

/-!
**Two sessions side by side.**

Much of what can be said of a rendering compares it with another one: with other entries in the
cache, with or without a memory, with a record beside the host, with other views. Two sessions that
go together are taken through two renderings step by step; the answers agree, the faults are the
same, and the sessions still go together.

* `Action.SameOutcome`: what two steps come to agrees.
* `Action.Relates`: a step beside another one.
* `relates_bind`, `relates_mapM`, `relates_attempt`: steps put together from others.
* `Session.Coupling`: sessions that go together as far as the host and the notes are concerned.
* `HostsAgree`, `relates_withHost`, `relates_note`: steps of two hosts, and the same note.
* `ParsesAlike`: sessions that go together as far as the cache is concerned.
* `parse_fault`, `outcome_parse_frame`: what parsing through a cache fails with, and what it leaves
  alone.
-/

namespace Mustache

variable {σ τ α β γ δ : Type}

namespace Action

/-- A step as it is run in a session. -/
def outcome (step : Action σ α) (session : Session σ) : Except Fault α × Session σ := step session

theorem outcome_bind (step : Action σ α) (next : α → Action σ β) (session : Session σ) :
    (step >>= next).outcome session =
      match step.outcome session with
      | (.ok value, after) => (next value).outcome after
      | (.error fault, after) => (.error fault, after) := by
  show (ExceptT.bindCont next (step session).1) (step session).2 = _
  unfold outcome
  match step session with
  | (.ok value, after) => rfl
  | (.error fault, after) => rfl

/-- What two steps come to agrees: the answers go together, or both fail with the same fault. -/
inductive SameOutcome (allowed : Fault → Prop) (answers : α → β → Prop) :
    Except Fault α → Except Fault β → Prop
  | ok {value : α} {image : β} : answers value image →
      SameOutcome allowed answers (.ok value) (.ok image)
  | error {fault : Fault} : allowed fault →
      SameOutcome allowed answers (.error fault) (.error fault)

/-- **A step beside another one**: from sessions that go together they come to the same, and the
sessions still go together. -/
def Relates (related : Session σ → Session τ → Prop) (allowed : Fault → Prop)
    (answers : α → β → Prop) (step : Action σ α) (other : Action τ β) : Prop :=
  ∀ session beside, related session beside →
    SameOutcome allowed answers (step.outcome session).1 (other.outcome beside).1 ∧
      related (step.outcome session).2 (other.outcome beside).2

variable {related : Session σ → Session τ → Prop} {allowed : Fault → Prop}
  {answers : α → β → Prop} {further : γ → δ → Prop}

theorem SameOutcome.eq {result other : Except Fault α}
    (same : SameOutcome allowed Eq result other) : result = other := by
  cases same with
  | ok equal => rw [equal]
  | error _ => rfl

theorem SameOutcome.mono {others : α → β → Prop} {result : Except Fault α}
    {image : Except Fault β} (same : SameOutcome allowed answers result image)
    (sends : ∀ {value other}, answers value other → others value other) :
    SameOutcome allowed others result image := by
  cases same with
  | ok here => exact .ok (sends here)
  | error here => exact .error here

theorem SameOutcome.may {result : Except Fault α} {image : Except Fault β} {fault : Fault}
    (same : SameOutcome allowed answers result image) (failed : result = .error fault) :
    allowed fault := by
  cases same with
  | ok _ => cases failed
  | error here =>
    cases failed
    exact here

theorem SameOutcome.exists_ok {result : Except Fault α} {image : Except Fault β} {value : α}
    (same : SameOutcome allowed answers result image) (found : result = .ok value) :
    ∃ other, image = .ok other ∧ answers value other := by
  cases same with
  | ok here =>
    cases found
    exact ⟨_, rfl, here⟩
  | error _ => cases found

theorem sameOutcome_refl {result : Except Fault α}
    (may : ∀ fault, result = .error fault → allowed fault) :
    SameOutcome allowed Eq result result := by
  cases result with
  | ok value => exact .ok rfl
  | error fault => exact .error (may fault rfl)

/-! ### Steps put together from others -/

theorem relates_pure {value : α} {image : β} (here : answers value image) :
    Relates related allowed answers (pure value) (pure image) := by
  intro session beside together
  exact ⟨.ok here, together⟩

theorem relates_throw {fault : Fault} (may : allowed fault) :
    Relates related allowed answers (throw fault) (throw fault) := by
  intro session beside together
  exact ⟨.error may, together⟩

/-- **One step after the other**, on both sides. -/
theorem relates_bind {step : Action σ α} {other : Action τ β} {next : α → Action σ γ}
    {otherNext : β → Action τ δ} (first : Relates related allowed answers step other)
    (second : ∀ value image, answers value image →
      Relates related allowed further (next value) (otherNext image)) :
    Relates related allowed further (step >>= next) (other >>= otherNext) := by
  intro session beside together
  obtain ⟨same, after⟩ := first session beside together
  rw [outcome_bind, outcome_bind]
  generalize step.outcome session = left at same after
  generalize other.outcome beside = right at same after
  obtain ⟨result, reached⟩ := left
  obtain ⟨image, arrived⟩ := right
  cases same with
  | ok here => exact second _ _ here reached arrived after
  | error may => exact ⟨.error may, after⟩

theorem relates_map {step : Action σ α} {other : Action τ β} {image : α → γ} {otherImage : β → δ}
    (relates : Relates related allowed answers step other)
    (sends : ∀ value beside, answers value beside → further (image value) (otherImage beside)) :
    Relates related allowed further (image <$> step) (otherImage <$> other) := by
  rw [← bind_pure_comp, ← bind_pure_comp]
  exact relates_bind relates fun value beside here => relates_pure (sends value beside here)

theorem relates_ite {test : Bool} {first second : Action σ α} {other another : Action τ β}
    (left : test = true → Relates related allowed answers first other)
    (right : ¬ test = true → Relates related allowed answers second another) :
    Relates related allowed answers (if test then first else second)
      (if test then other else another) := by
  by_cases true : test = true
  · rw [if_pos true, if_pos true]
    exact left true
  · rw [if_neg true, if_neg true]
    exact right true

theorem relates_mapM {step : γ → Action σ α} {other : γ → Action τ β} {values : List γ}
    (relates : ∀ value ∈ values, Relates related allowed answers (step value) (other value)) :
    Relates related allowed (List.Forall₂ answers) (values.mapM step) (values.mapM other) := by
  induction values with
  | nil =>
    rw [List.mapM_nil, List.mapM_nil]
    exact relates_pure .nil
  | cons value rest hypothesis =>
    obtain ⟨here, later⟩ := List.forall_mem_cons.mp relates
    rw [List.mapM_cons, List.mapM_cons]
    refine relates_bind here fun first image same => ?_
    refine relates_bind (hypothesis later) fun others images alike => ?_
    exact relates_pure (.cons same alike)

theorem relates_ofExcept {result : Except Fault α}
    (may : ∀ fault, result = .error fault → allowed fault) :
    Relates related allowed Eq (Action.ofExcept result) (Action.ofExcept result) := by
  intro session beside together
  exact ⟨sameOutcome_refl may, together⟩

/-- A step whose fault is dealt with: it is one that may come up. -/
theorem relates_attempt {step : Action σ α} {other : Action τ α}
    (relates : Relates related allowed Eq step other) :
    Relates related allowed
      (fun result image => result = image ∧ ∀ fault, result = .error fault → allowed fault)
      (attempt step) (attempt other) := by
  intro session beside together
  obtain ⟨same, after⟩ := relates session beside together
  exact ⟨.ok ⟨same.eq, fun _ failed => same.may failed⟩, after⟩

/-- A frame on top, on both sides: the sessions within it go together in a way of their own. -/
theorem relates_inNewFrame {inner : Session σ → Session τ → Prop} {step : Action σ α}
    {other : Action τ β} (relates : Relates inner allowed answers step other)
    (push : ∀ session beside, related session beside →
      inner { session with memo := [] } { beside with memo := [] })
    (pop : ∀ session beside after later, related session beside → inner after later →
      related { after with memo := session.memo } { later with memo := beside.memo }) :
    Relates related allowed answers (inNewFrame step) (inNewFrame other) := by
  intro session beside together
  obtain ⟨same, after⟩ := relates _ _ (push session beside together)
  exact ⟨same, pop session beside _ _ together after⟩

end Action

/-! ### The host and the notes -/

/-- **Two steps of hosts** that come to the same from states that go together. -/
def HostsAgree (hosts : σ → τ → Prop) (allowed : Fault → Prop) (answers : α → β → Prop)
    (step : σ → Except Fault α × σ) (other : τ → Except Fault β × τ) : Prop :=
  ∀ host beside, hosts host beside →
    Action.SameOutcome allowed answers (step host).1 (other beside).1 ∧
      hosts (step host).2 (other beside).2

theorem hostsAgree_refl {allowed : Fault → Prop} (step : σ → Except Fault α × σ)
    (may : ∀ host fault, (step host).1 = .error fault → allowed fault) :
    HostsAgree Eq allowed Eq step step := by
  rintro host _ rfl
  exact ⟨Action.sameOutcome_refl (may host), rfl⟩

/-- **Sessions that go together**, with states of their hosts that do: they still do when the hosts
are left in other such states, and when notes are taken. -/
structure Session.Coupling (hosts : σ → τ → Prop) (related : Session σ → Session τ → Prop) :
    Prop where
  states {session : Session σ} {beside : Session τ} : related session beside →
    hosts session.host beside.host
  withHost {session : Session σ} {beside : Session τ} {host : σ} {other : τ} : hosts host other →
    related session beside → related { session with host := host } { beside with host := other }
  withNotes {session : Session σ} {beside : Session τ} (notes : List Note) :
    related session beside → related { session with notes := notes ++ session.notes }
      { beside with notes := notes ++ beside.notes }

namespace Action

variable {hosts : σ → τ → Prop} {related : Session σ → Session τ → Prop}
  {allowed : Fault → Prop} (coupling : Session.Coupling hosts related)

include coupling

/-- A step of the hosts, which comes to the same on both sides. -/
theorem relates_withHost {answers : α → β → Prop} {step : σ → Except Fault α × σ}
    {other : τ → Except Fault β × τ} (agree : HostsAgree hosts allowed answers step other) :
    Relates related allowed answers (withHost step) (withHost other) := by
  intro session beside together
  obtain ⟨same, after⟩ := agree session.host beside.host (coupling.states together)
  exact ⟨same, coupling.withHost after together⟩

/-- The hosts are left in states that go together. -/
theorem relates_leaveHost (value : α) {host : σ} {other : τ} (here : hosts host other) :
    Relates related allowed Eq (withHost fun _ => (.ok value, host))
      (withHost fun _ => (.ok value, other)) :=
  relates_withHost coupling fun _ _ _ => ⟨.ok rfl, here⟩

/-- The states of the hosts are looked at. -/
theorem relates_readHost : Relates related allowed hosts (withHost fun host => (.ok host, host))
    (withHost fun host => (.ok host, host)) :=
  relates_withHost coupling fun _ _ here => ⟨.ok here, here⟩

theorem relates_note (entry : Note) :
    Relates related allowed Eq (note entry) (note entry) := by
  intro session beside together
  exact ⟨.ok rfl, coupling.withNotes [entry] together⟩

end Action

/-! ### The cache -/

/-- **Two sessions come to the same tree** whenever a template is parsed, and something is known of
that tree. -/
def ParsesAlike (related : Session σ → Session τ → Prop) (allowed : Fault → Prop)
    (known : Delimiters → String → List Token → Prop) : Prop :=
  ∀ delimiters template, Action.Relates related allowed
    (fun tree other => tree.tokens = other.tokens ∧ known delimiters template tree.tokens)
    (Action.parse delimiters template) (Action.parse delimiters template)

namespace Action

/-- A template that is not parsed has a fault of its own, whatever is in the cache. -/
theorem parse_fault {delimiters : Delimiters} {template : String} {session : Session σ}
    {fault : Fault}
    (failed : ((Action.parse delimiters template).outcome session).1 = .error fault) :
    ∃ cause, fault = .syntaxFault cause ∧ Mustache.parse delimiters template = .error cause := by
  unfold outcome Action.parse ofStep at failed
  simp only at failed
  split at failed
  · cases failed
  · split at failed
    · rename_i cause found
      exact ⟨cause, (Except.error.inj failed).symm, found⟩
    · cases failed

/-- Parsing has nothing to do with the host and the memory. -/
theorem outcome_parse_frame (delimiters : Delimiters) (template : String) (session : Session σ) :
    ((Action.parse delimiters template).outcome session).2.host = session.host ∧
      ((Action.parse delimiters template).outcome session).2.memo = session.memo := by
  unfold outcome Action.parse ofStep
  simp only
  split
  · exact ⟨rfl, rfl⟩
  · split
    · exact ⟨rfl, rfl⟩
    · exact ⟨rfl, rfl⟩

end Action

end Mustache
