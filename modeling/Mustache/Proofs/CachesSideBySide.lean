import Mustache.Proofs.Recording
import Mustache.Proofs.RenderingsSideBySide
import Mustache.Render.Engine

/-!
**Renderings with different caches.**

A cache answers what parsing answers, as long as it holds nothing but what its templates are parsed
to. So it makes no difference to a rendering, or to an engine, what is in the cache; and the cache
stays as it should be, being filled by parsing only.

* `Session.Beside`: sessions that differ in their caches, but hold nothing wrong there.
* `Render.cachePairing`: sessions that differ in nothing else that counts.
* `outcome_renderText_of_parse`: a template that has a tree.
* `agree_renderText_beside`: **a whole rendering**, whatever is in the cache.
* `Engine.Beside`: engines that differ in their caches only.
* `parse_beside`, `render_beside`, `renderTokens_beside`: **one call of two such engines.**
-/

namespace Mustache

variable {σ : Type}

/-- **Two sessions with the same state of the host**, whose caches hold nothing but what their
templates are parsed to. -/
structure Session.Beside (session other : Session σ) : Prop where
  host : session.host = other.host
  sound : session.CacheSound
  otherSound : other.CacheSound

namespace Render

open Mustache.Action

/-- Sessions in the same frame, whatever is in their caches. -/
def cachePairing : Pairing σ σ where
  related views beside session other :=
    views = beside ∧ session.memo = other.memo ∧ session.Beside other
  push view := by
    rintro ⟨rfl, _, host, sound, otherSound⟩
    exact ⟨rfl, rfl, host, sound, otherSound⟩
  pop := by
    rintro views _ session other after later view ⟨rfl, memo, _⟩ ⟨_, _, host, sound, otherSound⟩
    exact ⟨rfl, memo, host, sound, otherSound⟩

/-- **Two caches come to the same tree**, or to the same fault. -/
theorem beside_parse (delimiters : Delimiters) (template : String) {session other : Session σ}
    (beside : session.Beside other) :
    SameOutcome (fun _ => True) (fun tree image => tree.tokens = image.tokens)
        ((Action.parse delimiters template).outcome session).1
        ((Action.parse delimiters template).outcome other).1 ∧
      ((Action.parse delimiters template).outcome session).2.Beside
        ((Action.parse delimiters template).outcome other).2 := by
  obtain ⟨kept, condition⟩ := parse_outcome delimiters template beside.sound
  obtain ⟨otherKept, otherCondition⟩ := parse_outcome delimiters template beside.otherSound
  have host : ((Action.parse delimiters template).outcome session).2.host =
      ((Action.parse delimiters template).outcome other).2.host := by
    rw [(outcome_parse_frame delimiters template session).1,
      (outcome_parse_frame delimiters template other).1, beside.host]
  refine ⟨?_, host, kept, otherKept⟩
  cases found : ((Action.parse delimiters template).outcome session).1 with
  | ok tree =>
    rw [found] at condition
    obtain ⟨another, image, same⟩ := exists_tree_of_parse beside.otherSound condition
    rw [image]
    exact .ok same.symm
  | error fault =>
    obtain ⟨cause, rfl, failed⟩ := parse_fault found
    cases image : ((Action.parse delimiters template).outcome other).1 with
    | ok another =>
      rw [image] at otherCondition
      cases failed.symm.trans otherCondition
    | error fault =>
      obtain ⟨reason, rfl, misread⟩ := parse_fault image
      cases failed.symm.trans misread
      exact .error trivial

theorem cachePairing_coupling (views beside : Views) :
    Session.Coupling Eq ((cachePairing (σ := σ)).related views beside) where
  states := fun ⟨_, _, together⟩ => together.host
  withHost := fun same ⟨here, memo, together⟩ =>
    ⟨here, memo, same, together.sound, together.otherSound⟩
  withNotes := fun _ ⟨same, memo, together⟩ =>
    ⟨same, memo, together.host, together.sound, together.otherSound⟩

theorem cachePairing_parses (views beside : Views) :
    ParsesAlike ((cachePairing (σ := σ)).related views beside) (fun _ => True)
      fun _ _ _ => True := by
  rintro delimiters template session other ⟨same, memo, together⟩
  obtain ⟨outcome, kept⟩ := beside_parse delimiters template together
  refine ⟨outcome.mono fun tokens => ⟨tokens, trivial⟩, same, ?_, kept⟩
  rw [(outcome_parse_frame delimiters template session).2,
    (outcome_parse_frame delimiters template other).2, memo]

variable {setting : Setting σ}

/-- **A template that has a tree is rendered as that tree is**, in the session that parsing leaves.
-/
theorem outcome_renderText_of_parse {delimiters : Delimiters} {template : String}
    {tokens : List Token} {session : Session σ} (resolved : setting.tags.resolve = .ok delimiters)
    (sound : session.CacheSound) (parsed : Mustache.parse delimiters template = .ok tokens)
    (depth : Nat) (views : Views) :
    ∃ after : Session σ, after.memo = session.memo ∧ after.host = session.host ∧
      after.CacheSound ∧ (renderText setting (depth + 1) views template).outcome session =
        (renderLevel (renderExpansion setting) setting (renderText setting depth) (some template)
          views tokens).outcome after := by
  obtain ⟨tree, answered, rfl⟩ := exists_tree_of_parse sound parsed
  obtain ⟨host, remembered⟩ := outcome_parse_frame delimiters template session
  refine ⟨_, remembered, host, (parse_outcome delimiters template sound).1, ?_⟩
  rw [renderText_succ resolved, outcome_bind]
  generalize (Action.parse delimiters template).outcome session = step at answered ⊢
  obtain ⟨result, after⟩ := step
  cases answered
  rfl

/-- A template that is rendered has a tree. -/
theorem exists_parse_of_renderText {delimiters : Delimiters} {template written : String}
    {views : Views} {session : Session σ} {depth : Nat}
    (resolved : setting.tags.resolve = .ok delimiters) (sound : session.CacheSound)
    (rendered : ((renderText setting depth views template).outcome session).1 = .ok written) :
    ∃ tree, Mustache.parse delimiters template = .ok tree := by
  cases depth with
  | zero => cases rendered
  | succ depth =>
    rw [renderText_succ resolved, outcome_bind] at rendered
    obtain ⟨_, condition⟩ := parse_outcome delimiters template sound
    generalize (Action.parse delimiters template).outcome session = parsed at rendered condition
    obtain ⟨fault | tree, after⟩ := parsed
    · cases rendered
    · exact ⟨_, condition⟩

theorem agree_lookup_beside (views beside : Views) (name : String) :
    cachePairing.Agree (fun _ => True) views beside (lookup setting views name)
      (lookup setting beside name) := by
  intro session other together
  have same : views = beside := together.1
  subst same
  refine relates_lookup (cachePairing_coupling views views) (fun _ _ => trivial)
    (setting.alike_refl fun _ => trivial) ?_ ?_ views name session other together
  · exact fun ⟨_, memo, _⟩ => memo
  · exact fun _ ⟨same, _, after⟩ => ⟨same, rfl, after.host, after.sound, after.otherSound⟩

/-- **A whole rendering**, whatever is in the cache. -/
theorem agree_renderText_beside (depth : Nat) (views beside : Views) (text : String) :
    cachePairing.Agree (fun _ => True) views beside (renderText setting depth views text)
      (renderText setting depth beside text) :=
  agree_renderTextWith cachePairing_coupling (fun _ => trivial) agree_lookup_beside
    cachePairing_parses depth views beside text

/-- The rendering of any tree, whatever is in the cache. -/
theorem agree_renderLevel_beside (depth : Nat) (template : Option String) (tokens : List Token)
    (views : Views) :
    cachePairing.Agree (fun _ => True) views views
      (renderLevel (renderExpansion setting) setting (renderText setting depth) template views
        tokens)
      (renderLevel (renderExpansion setting) setting (renderText setting depth) template views
        tokens) :=
  agree_renderLevelWith cachePairing_coupling (fun _ => trivial) agree_lookup_beside
    (agree_renderText_beside depth) template tokens views views

end Render

namespace Engine

open Mustache.Action

/-! ### Engines -/

/-- Two engines with the same defaults, whatever is in their caches. -/
structure Beside (engine other : Engine σ) : Prop where
  tags : engine.tags = other.tags
  escape : engine.escape = other.escape
  session : engine.session.Beside other.session

variable {engine other : Engine σ} {α : Type}

/-- An engine beside itself. -/
theorem beside_refl (sound : engine.session.CacheSound) : engine.Beside engine :=
  ⟨rfl, rfl, rfl, sound, sound⟩

theorem run_beside {answers : α → α → Prop} {step : Action σ α}
    (relates : Relates Session.Beside (fun _ => True) answers step step)
    (beside : engine.Beside other) :
    SameOutcome (fun _ => True) answers (engine.run step).1 (other.run step).1 ∧
      (engine.run step).2.Beside (other.run step).2 := by
  obtain ⟨same, after⟩ := relates engine.session other.session beside.session
  exact ⟨same, beside.tags, beside.escape, after⟩

theorem parseDirectly_beside (beside : engine.Beside other) (template : String) (tags : Value) :
    (engine.parseDirectly template tags).1.map Tree.tokens =
        (other.parseDirectly template tags).1.map Tree.tokens ∧
      (engine.parseDirectly template tags).2.Beside (other.parseDirectly template tags).2 := by
  have relates : Relates Session.Beside (fun _ => True)
      (fun tree image => tree.tokens = image.tokens)
      (do let delimiters ← Action.ofExcept (σ := σ) (givenDelimiters tags)
          Action.parse delimiters template)
      (do let delimiters ← Action.ofExcept (givenDelimiters tags)
          Action.parse delimiters template) := by
    refine relates_bind (relates_ofExcept fun _ _ => trivial) fun delimiters _ same => ?_
    subst same
    exact fun _ _ together => Render.beside_parse delimiters template together
  obtain ⟨same, after⟩ := run_beside relates beside
  refine ⟨?_, after⟩
  unfold parseDirectly
  generalize (engine.run _).1 = result at same
  generalize (other.run _).1 = image at same
  cases same with
  | ok tokens => exact congrArg Except.ok tokens
  | error _ => rfl

/-- A rendering in a frame of its own, whose configuration is read first. -/
theorem configured_beside {config : ConfigSource} {step : RenderConfig → Action σ α} {views : Views}
    (agree : ∀ given,
      Render.cachePairing.Agree (fun _ => True) views views (step given) (step given))
    (beside : engine.Beside other) :
    let rendered := fun engine : Engine σ => engine.run do
      let given ← Action.ofExcept (RenderConfig.coerce config)
      fresh (step given)
    (rendered engine).1 = (rendered other).1 ∧ (rendered engine).2.Beside (rendered other).2 := by
  have framed : ∀ given, Relates Session.Beside (fun _ => True) Eq (fresh (step given))
      (fresh (step given)) := fun given =>
    relates_inNewFrame (agree given)
      (fun _ _ beside => ⟨rfl, rfl, beside.host, beside.sound, beside.otherSound⟩)
      fun _ _ _ _ _ ⟨_, _, after⟩ => ⟨after.host, after.sound, after.otherSound⟩
  have relates : Relates Session.Beside (fun _ => True) Eq
      (do let given ← Action.ofExcept (RenderConfig.coerce config)
          fresh (step given))
      (do let given ← Action.ofExcept (RenderConfig.coerce config)
          fresh (step given)) := by
    refine relates_bind (relates_ofExcept fun _ _ => trivial) fun given _ same => ?_
    subst same
    exact framed given
  obtain ⟨same, after⟩ := run_beside relates beside
  exact ⟨same.eq, after⟩

theorem renderDirectly_beside (beside : engine.Beside other) (host : Host σ) (template : String)
    (views : Views) (partials : Partials σ) (config : ConfigSource) :
    (engine.renderDirectly host template views partials config).1 =
        (other.renderDirectly host template views partials config).1 ∧
      (engine.renderDirectly host template views partials config).2.Beside
        (other.renderDirectly host template views partials config).2 :=
  configured_beside
    (fun _ => Render.agree_renderText_beside Render.depthLimit views views template) beside

theorem renderTokens_beside (beside : engine.Beside other) (host : Host σ) (tokens : List Token)
    (views : Views) (partials : Partials σ) (template : Option String) (config : ConfigSource) :
    (engine.renderTokens host tokens views partials template config).1 =
        (other.renderTokens host tokens views partials template config).1 ∧
      (engine.renderTokens host tokens views partials template config).2.Beside
        (other.renderTokens host tokens views partials template config).2 :=
  configured_beside
    (fun _ => Render.agree_renderLevel_beside Render.depthLimit template tokens views) beside

theorem parse_beside (beside : engine.Beside other) (template : String) (tags : Value) :
    (engine.parse template tags).1.map Tree.tokens =
        (other.parse template tags).1.map Tree.tokens ∧
      (engine.parse template tags).2.Beside (other.parse template tags).2 := by
  unfold parse
  rw [← beside.tags]
  split
  · exact parseDirectly_beside beside template engine.tags
  · exact parseDirectly_beside beside template tags

theorem render_beside (beside : engine.Beside other) (host : Host σ) (template : Value)
    (views : Views) (partials : Partials σ) (config : ConfigSource) :
    (engine.render host template views partials config).1 =
        (other.render host template views partials config).1 ∧
      (engine.render host template views partials config).2.Beside
        (other.render host template views partials config).2 := by
  unfold render
  rw [← beside.tags, ← beside.escape]
  split
  · split
    · exact ⟨rfl, beside⟩
    · split
      · exact ⟨rfl, beside⟩
      · exact renderDirectly_beside beside host _ views partials _
  · exact ⟨rfl, beside⟩

end Engine

end Mustache
