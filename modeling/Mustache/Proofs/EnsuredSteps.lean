import Mustache.Proofs.Ensuring
import Mustache.Proofs.Recording
import Mustache.Proofs.RenderingsSideBySide
import Mustache.Proofs.Throughout

/-!
**What looking up and parsing ensure.**

A name that is looked up in views that pass a test throughout stands for what passes it as well, if
the host keeps to the test, and a template that is parsed through a sound cache for its own tree. A
step that ensures something may also be taken twice, side by side with itself.

* `ensures_lookup`: **a name**, in a frame that remembers nothing but what was obtained.
* `relates_renderExpansion_of_not`: a section whose value is no function.
* `ensures_parse`: **a template**, with a sound cache.
* `relates_of_ensures`: one step in a session and in the same one.
-/

namespace Mustache

open Mustache.Action Value

variable {σ α : Type} {kept : Session σ → Prop}

/-- **A name in views that pass a test throughout**, if the host keeps to the test and its functions
answer nothing else. -/
theorem Render.ensures_lookup {test : Value → Bool} (closed : Closed test) {setting : Setting σ}
    (keeps : setting.host.Keeps test) {views : Views}
    (whole : ∀ view ∈ views.view :: views.outer, view.throughout test = true)
    (answers : ∀ function, test (.function function) = true → ∀ values,
      (∀ value ∈ values, value.throughout test = true) → ∀ state value,
        (setting.host.apply function values state).1 = .ok value → value.throughout test = true)
    (remembers : ∀ session, kept session → ∀ entry ∈ session.memo, Obtained test entry.2)
    (stays : ∀ session memo host, kept session → (∀ entry ∈ memo, Obtained test entry.2) →
      kept { session with memo := memo, host := host }) (name : String) :
    Ensures kept (fun value => value.throughout test = true) (lookup setting views name) := by
  intro session holds
  obtain ⟨obtained, known⟩ :=
    (closed.closes keeps).lookup name (fun view member => .whole (whole view member))
      (remembers session holds)
  unfold lookup Setting.search
  rw [outcome_lookupBy]
  generalize Frame.lookup setting.host.access views.view views.outer session.memo name = found
    at obtained known
  obtain ⟨fault | raw, memo⟩ := found
  · exact ⟨stays session memo session.host holds known, nofun⟩
  · exact ⟨stays session memo _ holds known, fun value settled =>
      Frame.settle_throughout closed keeps answers (whole views.view List.mem_cons_self)
        (obtained raw rfl) settled⟩

/-- A section whose value is no function comes to the same fault on both sides. -/
theorem Render.relates_renderExpansion_of_not {τ : Type} {related : Session σ → Session τ → Prop}
    {allowed : Fault → Prop} (may : allowed .wrongType) {answers : Piece → Piece → Prop}
    {setting : Setting σ} {other : Setting τ} {again : Views → String → Action σ String}
    {anew : Views → String → Action τ String} {text another : String} {views beside : Views}
    {span place : Span} {stop limit : Int} {value : Value} (plain : value.isFunction = false) :
    Relates related allowed answers
      (renderExpansion setting again (some text) views span stop value)
      (renderExpansion other anew (some another) beside place limit value) := by
  have none : bodyFunction? value = none := by
    cases value with
    | function _ | sectionLambda _ => cases plain
    | _ => rfl
  intro session later together
  rw [outcome_renderExpansion_none none, outcome_renderExpansion_none none]
  exact ⟨.error may, together⟩

/-- **A template is parsed to its own tree**, whether that was in the cache or not. -/
theorem Action.ensures_parse (sound : ∀ session, kept session → session.CacheSound)
    (stays : ∀ session after : Session σ, kept session → after.CacheSound →
      after.memo = session.memo → kept after) (delimiters : Delimiters) (text : String) :
    Ensures kept (fun tree => Mustache.parse delimiters text = .ok tree.tokens)
      (Action.parse delimiters text : Action σ Tree) := by
  intro session holds
  obtain ⟨still, condition⟩ := parse_outcome delimiters text (sound session holds)
  obtain ⟨_, remembered⟩ := outcome_parse_frame delimiters text session
  refine ⟨stays session _ holds still remembered, fun tree answered => ?_⟩
  rw [answered] at condition
  exact condition

/-- **One step in a session and in the same one.** -/
theorem Action.relates_of_ensures {related : Session σ → Session σ → Prop}
    {good : α → Prop} {step : Action σ α}
    (same : ∀ session other, related session other → session = other ∧ kept session)
    (stays : ∀ session other after, related session other → kept after → related after after)
    (ensures : Ensures kept good step) :
    Relates related (fun _ => True) (fun value image => value = image ∧ good value) step step := by
  intro session other together
  obtain ⟨rfl, holds⟩ := same session other together
  obtain ⟨after, answers⟩ := ensures session holds
  refine ⟨?_, stays session session _ together after⟩
  cases result : (step.outcome session).1 with
  | error fault => exact .error trivial
  | ok value => exact .ok ⟨rfl, answers value result⟩

end Mustache
