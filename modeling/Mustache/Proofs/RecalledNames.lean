import Mustache.Proofs.CachesSideBySide

/-!
**Names that were looked up before.**

A frame answers a name from its memory, or it looks for the name and remembers what it found. Either
way it answers the next time what it answered before, and it answers all other names as if this one
had never been looked up. What counts of a memory are its answers, so a rendering comes to the same
behind a name that was looked up as without it.

* `Memo.Recalls`: two memories with the same answers.
* `Frame.recalls_lookup`: a name looked up leaves all answers as they are.
* `Render.recallPairing`: sessions whose memories answer the same.
* `agree_renderText_recalled`: **a whole rendering** with either of two such memories.
* `recalled_lookup`: the session behind a name that was looked up.
-/

namespace Mustache

variable {σ : Type}

/-- **Two memories of a frame with the same answers** to all names. -/
def Memo.Recalls (access : Access) (views : Views) (memo other : Memo) : Prop :=
  ∀ name, (Frame.lookup access views.view views.outer memo name).1 =
    (Frame.lookup access views.view views.outer other name).1

namespace Frame

variable {access : Access}

/-- The point is answered by the view, whatever is remembered. -/
theorem lookup_point (view : Value) (outer : List Value) (memo : Memo) :
    lookup access view outer memo "." = (.ok view, memo) := by
  unfold lookup
  rw [if_pos rfl]

/-- A name that was looked for and found is answered by what was found, and only that name. -/
theorem lookup_found {view : Value} {outer : List Value} {memo : Memo} {name : String}
    {value : Value} (unknown : memo.lookup name = none)
    (found : find access name (view :: outer) = .ok value) (asked : String) :
    (lookup access view outer ((name, value) :: memo) asked).1 =
      (lookup access view outer memo asked).1 := by
  by_cases point : asked = "."
  · rw [point, lookup_point, lookup_point]
  · unfold lookup
    rw [if_neg point, if_neg point]
    by_cases same : asked = name
    · subst same
      rw [List.lookup_cons_self, unknown, found]
    · rw [List.lookup_cons, beq_false_of_ne same]
      cases memo.lookup asked with
      | some known => rfl
      | none => cases find access asked (view :: outer) <;> rfl

/-- **A name looked up leaves all answers as they are.** -/
theorem recalls_lookup (access : Access) (views : Views) (memo : Memo) (name : String) :
    Memo.Recalls access views (lookup access views.view views.outer memo name).2 memo := by
  intro asked
  by_cases point : name = "."
  · rw [point, lookup_point]
  · cases unknown : memo.lookup name with
    | some value =>
      have same : (lookup access views.view views.outer memo name).2 = memo := by
        unfold lookup
        rw [if_neg point, unknown]
      rw [same]
    | none =>
      cases found : find access name (views.view :: views.outer) with
      | error fault =>
        have same : (lookup access views.view views.outer memo name).2 = memo := by
          unfold lookup
          rw [if_neg point, unknown, found]
        rw [same]
      | ok value =>
        have kept : (lookup access views.view views.outer memo name).2 = (name, value) :: memo := by
          unfold lookup
          rw [if_neg point, unknown, found]
        rw [kept]
        exact lookup_found unknown found asked

end Frame

namespace Render

open Mustache.Action

/-- Sessions in the same frame whose memories answer the same, whatever is in their caches. -/
def recallPairing (access : Access) : Pairing σ σ where
  related views beside session other :=
    views = beside ∧ Memo.Recalls access views session.memo other.memo ∧ session.Beside other
  push view := by
    rintro ⟨rfl, _, host, sound, otherSound⟩
    exact ⟨rfl, fun _ => rfl, host, sound, otherSound⟩
  pop := by
    rintro views _ session other after later view ⟨rfl, recalls, _⟩ ⟨_, _, host, sound, otherSound⟩
    exact ⟨rfl, recalls, host, sound, otherSound⟩

theorem recallPairing_coupling (access : Access) (views beside : Views) :
    Session.Coupling Eq ((recallPairing (σ := σ) access).related views beside) where
  states := fun ⟨_, _, together⟩ => together.host
  withHost := fun same ⟨here, recalls, together⟩ =>
    ⟨here, recalls, same, together.sound, together.otherSound⟩
  withNotes := fun _ ⟨same, recalls, together⟩ =>
    ⟨same, recalls, together.host, together.sound, together.otherSound⟩

theorem recallPairing_parses (access : Access) (views beside : Views) :
    ParsesAlike ((recallPairing (σ := σ) access).related views beside) (fun _ => True)
      fun _ _ _ => True := by
  rintro delimiters template session other ⟨same, recalls, together⟩
  obtain ⟨outcome, kept⟩ := beside_parse delimiters template together
  refine ⟨outcome.mono fun tokens => ⟨tokens, trivial⟩, same, ?_, kept⟩
  rw [(outcome_parse_frame delimiters template session).2,
    (outcome_parse_frame delimiters template other).2]
  exact recalls

variable {setting : Setting σ}

/-- A name looked up with two memories that answer the same: they still do behind it. -/
theorem agree_lookup_recalled (views beside : Views) (name : String) :
    (recallPairing setting.host.access).Agree (fun _ => True) views beside
      (lookup setting views name) (lookup setting beside name) := by
  rintro session other ⟨rfl, recalls, together⟩
  have recalled := Frame.recalls_lookup setting.host.access views
  have after : Memo.Recalls setting.host.access views
      (Frame.lookup setting.host.access views.view views.outer session.memo name).2
      (Frame.lookup setting.host.access views.view views.outer other.memo name).2 := fun asked =>
    (recalled session.memo name asked).trans
      ((recalls asked).trans (recalled other.memo name asked).symm)
  have answer := recalls name
  unfold lookup Setting.search
  rw [outcome_lookupBy, outcome_lookupBy, together.host]
  generalize Frame.lookup setting.host.access views.view views.outer session.memo name = found
    at answer after
  generalize Frame.lookup setting.host.access views.view views.outer other.memo name = again
    at answer after
  obtain ⟨result, memo⟩ := found
  obtain ⟨image, memory⟩ := again
  change result = image at answer
  subst answer
  cases result with
  | error fault => exact ⟨.error trivial, rfl, after, rfl, together.sound, together.otherSound⟩
  | ok raw =>
    exact ⟨sameOutcome_refl fun _ _ => trivial, rfl, after, rfl, together.sound,
      together.otherSound⟩

/-- **A whole rendering** with either of two memories that answer the same. -/
theorem agree_renderText_recalled (depth : Nat) (views beside : Views) (text : String) :
    (recallPairing setting.host.access).Agree (fun _ => True) views beside
      (renderText setting depth views text) (renderText setting depth beside text) :=
  agree_renderTextWith (recallPairing_coupling _) (fun _ => trivial) agree_lookup_recalled
    (recallPairing_parses _) depth views beside text

/-- **Behind a name that was looked up**, the session goes together with the one before it, but for
the state of the host. -/
theorem recalled_lookup {views : Views} {name : String} {session after : Session σ}
    {value : Value} (sound : session.CacheSound)
    (found : (lookup setting views name).outcome session = (.ok value, after)) :
    (recallPairing setting.host.access).related views views after
      { session with host := after.host } := by
  have recalls := Frame.recalls_lookup setting.host.access views session.memo name
  unfold lookup Setting.search at found
  rw [outcome_lookupBy] at found
  generalize Frame.lookup setting.host.access views.view views.outer session.memo name = searched
    at found recalls
  obtain ⟨fault | raw, memo⟩ := searched
  · cases found
  · obtain rfl : _ = after := congrArg Prod.snd found
    exact ⟨rfl, recalls, rfl, sound, sound⟩

end Render

end Mustache
