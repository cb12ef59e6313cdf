import Mustache.Proofs.SideBySide

/-!
**Steps with a record beside them.**

To say what happens in the course of a rendering, events are written down in a second state beside
that of the host, which the host leaves alone. A step with a record does what the step without it
does; and along the way the cache holds nothing but what its templates are parsed to, each event
that is written down is good behind those before it, and no step fails with a fault that may not
come up.

* `Watch`, `Watch.Trail`: which events are good, and which faults may come up.
* `Session.Sound`: a session with such a cache and such events.
* `Action.Tracks`: a step with a record against the same step without one.
* `tracks_iff`, `tracks_free_iff`: the two steps side by side.
* `tracks_record`, `tracks_record_readHost`: an event written down.
* `parse_outcome`: **the cache answers what parsing answers.**
* `Watch.coupling`, `Watch.parsesAlike`: sessions with a record beside those without one.
-/

namespace Mustache

variable {σ ε α β : Type}

/-! ### Sessions with a record -/

/-- What is watched in the course of a rendering: which events are good behind which others, and
which faults may come up. -/
structure Watch (ε : Type) where
  good : List ε → ε → Prop
  allowed : Fault → Prop

/-- A record of events each of which is good behind those before it. -/
def Watch.Trail (watch : Watch ε) (events : List ε) : Prop :=
  ∀ before event after, events = before ++ event :: after → watch.good before event

theorem Watch.trail_nil (watch : Watch ε) : watch.Trail [] := by
  intro before event after split
  cases before <;> cases split

theorem Watch.Trail.concat {watch : Watch ε} {events : List ε} {event : ε}
    (trail : watch.Trail events) (here : watch.good events event) :
    watch.Trail (events ++ [event]) := by
  intro before other after split
  rcases List.eq_nil_or_concat after with rfl | ⟨rest, last, rfl⟩
  · obtain ⟨rfl, same⟩ := List.append_inj' split rfl
    cases same
    exact here
  · rw [List.concat_eq_append, ← List.cons_append, ← List.append_assoc] at split
    obtain ⟨rfl, _⟩ := List.append_inj' split rfl
    exact trail before other rest rfl

namespace Session

/-- The cache of a session holds nothing but what its templates are parsed to. -/
def CacheSound (session : Session σ) : Prop :=
  ∀ cache ∈ session.cache, ∀ entry ∈ cache.entries,
    parse entry.1.2 entry.1.1 = .ok entry.2.tokens

/-- A session without its record. -/
def plain (session : Session (σ × List ε)) : Session σ := { session with host := session.host.1 }

/-- A session with a record. -/
def recording (session : Session σ) (events : List ε) : Session (σ × List ε) :=
  { session with host := (session.host, events) }

/-- A session whose cache is sound and whose record is a trail of good events. -/
structure Sound (watch : Watch ε) (session : Session (σ × List ε)) : Prop where
  cache : session.CacheSound
  events : watch.Trail session.host.2

end Session

namespace Action

/-- An event is written down. -/
def record (event : ε) : Action (σ × List ε) Unit :=
  withHost fun host => (.ok (), host.1, host.2 ++ [event])

/-- **A step with a record against the same step without one**: they answer the same and leave the
same session, the record apart; the session stays sound; and what is answered satisfies a condition,
or is a fault that may come up. -/
def Tracks (watch : Watch ε) (holds : α → Prop) (recorded : Action (σ × List ε) α)
    (plain : Action σ α) : Prop :=
  ∀ session, session.Sound watch →
    plain.outcome session.plain =
        ((recorded.outcome session).1, (recorded.outcome session).2.plain) ∧
      (recorded.outcome session).2.Sound watch ∧
      match (recorded.outcome session).1 with
      | .ok value => holds value
      | .error fault => watch.allowed fault

/-- No condition on what is answered. -/
def Free (_ : α) : Prop := True

end Action

/-! ### The two sessions side by side -/

namespace Watch

/-- A sound session beside the same one without its record. -/
def related (watch : Watch ε) (session : Session (σ × List ε)) (other : Session σ) : Prop :=
  other = session.plain ∧ session.Sound watch

/-- The state of a host with a record of good events beside the same state without it. -/
def hosts (watch : Watch ε) (state : σ × List ε) (other : σ) : Prop :=
  other = state.1 ∧ watch.Trail state.2

theorem coupling (watch : Watch ε) :
    Session.Coupling (watch.hosts (σ := σ)) watch.related where
  states := fun ⟨same, sound⟩ => ⟨congrArg Session.host same, sound.events⟩
  withHost := by
    rintro session _ host _ ⟨rfl, trail⟩ ⟨rfl, sound⟩
    exact ⟨rfl, sound.cache, trail⟩
  withNotes := by
    rintro session _ notes ⟨rfl, sound⟩
    exact ⟨rfl, sound.cache, sound.events⟩

end Watch

namespace Action

variable {watch : Watch ε} {holds : α → Prop} {further : β → Prop}
  {recorded : Action (σ × List ε) α} {plain : Action σ α}

/-- What two steps come to agrees where it is the same and satisfies a condition. -/
theorem sameOutcome_and_iff {allowed : Fault → Prop} {result image : Except Fault α} :
    SameOutcome allowed (fun value other => value = other ∧ holds value) result image ↔
      image = result ∧
        match result with
        | .ok value => holds value
        | .error fault => allowed fault := by
  constructor
  · intro same
    cases same with
    | ok both => exact ⟨congrArg Except.ok both.1.symm, both.2⟩
    | error may => exact ⟨rfl, may⟩
  · rintro ⟨rfl, condition⟩
    cases image with
    | ok value => exact .ok ⟨rfl, condition⟩
    | error fault => exact .error condition

/-- **A step with a record** goes side by side with the same step without one. -/
theorem tracks_iff : Tracks watch holds recorded plain ↔
    Relates watch.related watch.allowed (fun value image => value = image ∧ holds value) recorded
      plain := by
  constructor
  · rintro tracks session _ ⟨rfl, sound⟩
    obtain ⟨same, kept, condition⟩ := tracks session sound
    rw [same]
    exact ⟨sameOutcome_and_iff.mpr ⟨rfl, condition⟩, rfl, kept⟩
  · intro relates session sound
    obtain ⟨same, plain, kept⟩ := relates session session.plain ⟨rfl, sound⟩
    obtain ⟨equal, condition⟩ := sameOutcome_and_iff.mp same
    exact ⟨Prod.ext equal plain, kept, condition⟩

theorem tracks_free_iff : Tracks watch Free recorded plain ↔
    Relates watch.related watch.allowed Eq recorded plain := by
  have answers : (fun value image : α => value = image ∧ Free value) = Eq :=
    funext fun value => funext fun image => propext (and_iff_left trivial)
  rw [tracks_iff, answers]

theorem tracks_pure {value : α} (here : holds value) :
    Tracks (σ := σ) watch holds (pure value) (pure value) :=
  tracks_iff.mpr (relates_pure ⟨rfl, here⟩)

/-- **One step after the other.** -/
theorem tracks_bind {next : α → Action (σ × List ε) β} {plainNext : α → Action σ β}
    (first : Tracks watch holds recorded plain)
    (second : ∀ value, holds value → Tracks watch further (next value) (plainNext value)) :
    Tracks watch further (recorded >>= next) (plain >>= plainNext) := by
  refine tracks_iff.mpr (relates_bind (tracks_iff.mp first) fun value _ ⟨same, here⟩ => ?_)
  subst same
  exact tracks_iff.mp (second value here)

theorem tracks_inNewFrame (tracks : Tracks watch holds recorded plain) :
    Tracks watch holds (inNewFrame recorded) (inNewFrame plain) := by
  refine tracks_iff.mpr (relates_inNewFrame (tracks_iff.mp tracks) ?_ ?_)
  · rintro session _ ⟨rfl, sound⟩
    exact ⟨rfl, sound.cache, sound.events⟩
  · rintro session _ after _ ⟨rfl, _⟩ ⟨rfl, kept⟩
    exact ⟨rfl, kept.cache, kept.events⟩

/-- A good event is written down before a step. -/
theorem tracks_record {event : ε}
    (here : ∀ events, watch.Trail events → watch.good events event)
    (tracks : Tracks watch holds recorded plain) :
    Tracks watch holds (record event >>= fun _ => recorded) plain := by
  intro session sound
  exact tracks { session with host := (session.host.1, session.host.2 ++ [event]) }
    ⟨sound.cache, sound.events.concat (here session.host.2 sound.events)⟩

/-- The state of the host is looked at behind an event that is written down. -/
theorem tracks_record_readHost {event : ε} {next : σ × List ε → Action (σ × List ε) β}
    {plainNext : σ → Action σ β}
    (here : ∀ events, watch.Trail events → watch.good events event)
    (tracks : ∀ host events, watch.Trail (events ++ [event]) →
      Tracks watch further (next (host, events ++ [event])) (plainNext host)) :
    Tracks watch further
      (record event >>= fun _ => withHost (fun host => (.ok host, host)) >>= next)
      (withHost (fun host => (.ok host, host)) >>= plainNext) := by
  intro session sound
  have trail := sound.events.concat (here session.host.2 sound.events)
  exact tracks session.host.1 session.host.2 trail
    { session with host := (session.host.1, session.host.2 ++ [event]) } ⟨sound.cache, trail⟩

/-! ### The cache -/

theorem mem_store {key : String × Delimiters} {tree : Tree}
    {entries : List ((String × Delimiters) × Tree)} {entry : (String × Delimiters) × Tree}
    (member : entry ∈ Cache.store key tree entries) : entry = (key, tree) ∨ entry ∈ entries := by
  induction entries with
  | nil => exact Or.inl (List.mem_singleton.mp member)
  | cons first rest hypothesis =>
    unfold Cache.store at member
    split at member
    · rename_i same
      rcases List.mem_cons.mp member with here | later
      · exact Or.inl (by rw [here, eq_of_beq same])
      · exact Or.inr (List.mem_cons_of_mem _ later)
    · rcases List.mem_cons.mp member with here | later
      · exact Or.inr (by rw [here]; exact List.mem_cons_self)
      · rcases hypothesis later with here | inside
        · exact Or.inl here
        · exact Or.inr (List.mem_cons_of_mem _ inside)

/-- A sound cache stays so when a template is stored with what it is parsed to. -/
theorem cacheSound_build {key : String × Delimiters} {tokens : List Token} {session : Session σ}
    (sound : session.CacheSound) (parsed : Mustache.parse key.2 key.1 = .ok tokens) :
    (build key tokens session).2.CacheSound := by
  intro cache member entry inside
  obtain ⟨before, held, rfl⟩ := Option.map_eq_some_iff.mp member
  unfold Cache.insert at inside
  split at inside
  · rcases mem_store inside with rfl | old
    · exact parsed
    · exact sound before held entry old
  · exact sound before held entry inside

/-- **The cache answers what parsing answers**, and stays sound. -/
theorem parse_outcome (delimiters : Delimiters) (template : String) {session : Session σ}
    (sound : session.CacheSound) :
    ((parse delimiters template).outcome session).2.CacheSound ∧
      match ((parse delimiters template).outcome session).1 with
      | .ok tree => Mustache.parse delimiters template = .ok tree.tokens
      | .error fault => ∃ cause, fault = .syntaxFault cause := by
  unfold outcome parse ofStep
  simp only
  split
  · rename_i tree found
    refine ⟨sound, ?_⟩
    obtain ⟨cache, held, found⟩ := Option.bind_eq_some_iff.mp found
    unfold Cache.get? at found
    split at found
    · obtain ⟨before, after, entries, _⟩ := List.lookup_eq_some_iff.mp found
      exact sound cache held ((template, delimiters), tree) (by rw [entries]; simp)
    · cases found
  · split
    · rename_i fault _
      exact ⟨sound, fault, rfl⟩
    · rename_i tokens parsed
      exact ⟨cacheSound_build sound parsed, parsed⟩

/-- **A template that has a tree is parsed to it**, whatever is in a sound cache. -/
theorem exists_tree_of_parse {delimiters : Delimiters} {template : String} {tokens : List Token}
    {session : Session σ} (sound : session.CacheSound)
    (parsed : Mustache.parse delimiters template = .ok tokens) :
    ∃ tree, ((parse delimiters template).outcome session).1 = .ok tree ∧ tree.tokens = tokens := by
  obtain ⟨_, condition⟩ := parse_outcome delimiters template sound
  cases found : ((parse delimiters template).outcome session).1 with
  | ok tree =>
    rw [found] at condition
    exact ⟨tree, rfl, Except.ok.inj (condition.symm.trans parsed)⟩
  | error fault =>
    obtain ⟨cause, _, failed⟩ := parse_fault found
    cases parsed.symm.trans failed

end Action

/-- **A session with a record and the same one without it come to the same tree**, which is that of
the template. -/
theorem Watch.parsesAlike {watch : Watch ε} (may : ∀ cause, watch.allowed (.syntaxFault cause)) :
    ParsesAlike (watch.related (σ := σ)) watch.allowed
      fun delimiters template tree => parse delimiters template = .ok tree := by
  rintro delimiters template session _ ⟨rfl, sound⟩
  obtain ⟨kept, condition⟩ := Action.parse_outcome delimiters template sound.cache
  obtain ⟨host, _⟩ := Action.outcome_parse_frame delimiters template session
  have same : (Action.parse delimiters template).outcome session.plain =
      (((Action.parse delimiters template).outcome session).1,
        ((Action.parse delimiters template).outcome session).2.plain) := by
    have cache : session.plain.cache = session.cache := rfl
    unfold Action.outcome Action.parse Action.ofStep
    simp only [cache]
    split
    · rfl
    · split
      · rfl
      · rfl
  rw [same]
  refine ⟨?_, rfl, kept, ?_⟩
  · cases found : ((Action.parse delimiters template).outcome session).1 with
    | ok tree =>
      rw [found] at condition
      exact .ok ⟨rfl, condition⟩
    | error fault =>
      rw [found] at condition
      obtain ⟨cause, rfl⟩ := condition
      exact .error (may cause)
  · rw [host]
    exact sound.events

end Mustache
