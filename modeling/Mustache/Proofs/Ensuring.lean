import Mustache.Proofs.SideBySide

/-!
**What steps ensure.**

Of a single rendering one can say what holds of each answer, as long as something holds of the
session that is kept by each step. Nothing is said of the fault that a step may fail with.

* `Action.Ensures`: what a step keeps and what its answers are like.
* `ensures_bind`, `ensures_mapM`, `ensures_inNewFrame`: steps put together from others.
-/

namespace Mustache.Action

variable {σ α β : Type}

/-- **A step that keeps something** of the session, and whose answers are good if it held before. -/
def Ensures (kept : Session σ → Prop) (good : α → Prop) (step : Action σ α) : Prop :=
  ∀ session, kept session →
    kept (step.outcome session).2 ∧ ∀ value, (step.outcome session).1 = .ok value → good value

variable {kept : Session σ → Prop} {good : α → Prop} {better : β → Prop}

theorem ensures_pure {value : α} (here : good value) :
    Ensures kept good (pure value : Action σ α) := by
  intro session holds
  refine ⟨holds, fun answer same => ?_⟩
  cases same
  exact here

theorem ensures_throw (fault : Fault) : Ensures kept good (throw fault : Action σ α) :=
  fun _ holds => ⟨holds, nofun⟩

theorem Ensures.mono {other : α → Prop} {step : Action σ α} (ensures : Ensures kept good step)
    (sends : ∀ value, good value → other value) : Ensures kept other step := by
  intro session holds
  obtain ⟨after, answers⟩ := ensures session holds
  exact ⟨after, fun value same => sends value (answers value same)⟩

/-- **One step after the other.** -/
theorem ensures_bind {step : Action σ α} {next : α → Action σ β} (first : Ensures kept good step)
    (second : ∀ value, good value → Ensures kept better (next value)) :
    Ensures kept better (step >>= next) := by
  intro session holds
  obtain ⟨after, answers⟩ := first session holds
  rw [outcome_bind]
  rcases reached : step.outcome session with ⟨fault | value, later⟩
  · rw [reached] at after
    exact ⟨after, nofun⟩
  · rw [reached] at after answers
    exact second value (answers value rfl) later after

theorem ensures_map {image : α → β} {step : Action σ α} (ensures : Ensures kept good step)
    (sends : ∀ value, good value → better (image value)) :
    Ensures kept better (image <$> step) := by
  rw [← bind_pure_comp]
  exact ensures_bind ensures fun value here => ensures_pure (sends value here)

theorem ensures_ite {test : Bool} {first second : Action σ α}
    (left : test = true → Ensures kept good first)
    (right : ¬ test = true → Ensures kept good second) :
    Ensures kept good (if test then first else second) := by
  by_cases true : test = true
  · rw [if_pos true]
    exact left true
  · rw [if_neg true]
    exact right true

theorem ensures_mapM {step : α → Action σ β} {values : List α}
    (ensures : ∀ value ∈ values, Ensures kept better (step value)) :
    Ensures kept (fun answers => ∀ answer ∈ answers, better answer) (values.mapM step) := by
  induction values with
  | nil =>
    rw [List.mapM_nil]
    exact ensures_pure nofun
  | cons value rest hypothesis =>
    rw [List.mapM_cons]
    refine ensures_bind (ensures value List.mem_cons_self) fun first here => ?_
    refine ensures_bind (hypothesis fun other member =>
      ensures other (List.mem_cons_of_mem _ member)) fun later there => ?_
    exact ensures_pure (List.forall_mem_cons.mpr ⟨here, there⟩)

theorem ensures_ofExcept {result : Except Fault α}
    (here : ∀ value, result = .ok value → good value) :
    Ensures kept good (ofExcept result : Action σ α) :=
  fun _ holds => ⟨holds, here⟩

/-- A frame on top, which starts without memory and gives the memory back that was there. -/
theorem ensures_inNewFrame {step : Action σ α} (ensures : Ensures kept good step)
    (push : ∀ session, kept session → kept { session with memo := [] })
    (pop : ∀ session after, kept session → kept after →
      kept { after with memo := session.memo }) :
    Ensures kept good (inNewFrame step) := by
  intro session holds
  obtain ⟨after, answers⟩ := ensures _ (push session holds)
  exact ⟨pop session _ holds after, answers⟩

end Mustache.Action
