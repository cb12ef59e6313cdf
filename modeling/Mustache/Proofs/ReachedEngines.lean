import Mustache.Proofs.CachesSideBySide
import Mustache.Render.Engine

/-!
**The cache of an engine that is in use.**

Whatever an engine is made to do, its cache holds nothing but what its templates are parsed to: the
cache is filled by parsing only, whether a template, a partial or the text of a callback is parsed.

* `Engine.Reached`: the engines that come about in use.
* `cacheSound_of_reached`: **the cache of an engine in use is sound.**
-/

namespace Mustache

variable {σ : Type}

namespace Engine

/-- **The engines that come about in use**: new ones, what they are after each call, and what they
are when their defaults, their cache or the state of their host are set. A cache that is set has
been filled by parsing. -/
inductive Reached : Engine σ → Prop
  | new (host : σ) (enabled : Option Bool) : Reached (new host (enabled.map Cache.empty))
  | parse {engine : Engine σ} (template : String) (tags : Value) :
      Reached engine → Reached (engine.parse template tags).2
  | parseDirectly {engine : Engine σ} (template : String) (tags : Value) :
      Reached engine → Reached (engine.parseDirectly template tags).2
  | render {engine : Engine σ} (host : Host σ) (template : Value) (views : Views)
      (partials : Partials σ) (config : ConfigSource) :
      Reached engine → Reached (engine.render host template views partials config).2
  | renderDirectly {engine : Engine σ} (host : Host σ) (template : String) (views : Views)
      (partials : Partials σ) (config : ConfigSource) :
      Reached engine → Reached (engine.renderDirectly host template views partials config).2
  | renderTokens {engine : Engine σ} (host : Host σ) (tokens : List Token) (views : Views)
      (partials : Partials σ) (template : Option String) (config : ConfigSource) :
      Reached engine → Reached (engine.renderTokens host tokens views partials template config).2
  | clearCache {engine : Engine σ} : Reached engine → Reached engine.clearCache
  | withCache {engine : Engine σ} {cache : Option TemplateCache} :
      Reached engine → (∀ held ∈ cache, ∀ entry ∈ held.entries,
        Mustache.parse entry.1.2 entry.1.1 = .ok entry.2.tokens) →
      Reached (engine.withCache cache)
  | withDefaults {engine : Engine σ} (tags : Value) (escape : Option Escape) :
      Reached engine → Reached { engine with tags := tags, escape := escape }
  | withHost {engine : Engine σ} (host : σ) :
      Reached engine → Reached { engine with session := { engine.session with host := host } }

variable {engine : Engine σ}

/-- What a rendering with the defaults comes to: a fault before anything is rendered, or a rendering
with a configuration that is ready. -/
theorem render_cases (engine : Engine σ) (host : Host σ) (template : Value) (views : Views)
    (partials : Partials σ) (config : ConfigSource) :
    (∃ fault, engine.render host template views partials config = (.error fault, engine) ∧
      fault ≠ .rawBodyMissing) ∨
    ∃ text given, template = .text text ∧ engine.render host template views partials config =
      engine.renderDirectly host text views partials (.ready given) := by
  cases template with
  | text text =>
    unfold render
    simp only
    split
    · rename_i fault failed
      refine Or.inl ⟨fault, rfl, fun same => ?_⟩
      rw [same] at failed
      exact RenderConfig.coerce_ne config failed
    · rename_i given _
      split
      · rename_i fault failed
        refine Or.inl ⟨fault, rfl, fun same => ?_⟩
        rw [same] at failed
        exact RenderConfig.withDefaults_ne given engine.tags engine.escape failed
      · rename_i ready _
        exact Or.inr ⟨text, ready, rfl, rfl⟩
  | _ => exact Or.inl ⟨_, rfl, nofun⟩

/-- A rendering with a configuration is one in a frame of its own. -/
theorem renderDirectly_eq (engine : Engine σ) (host : Host σ) (template : String) (views : Views)
    (partials : Partials σ) {config : ConfigSource} {given : RenderConfig}
    (coerced : RenderConfig.coerce config = .ok given) :
    engine.renderDirectly host template views partials config =
      let rendered := (Render.renderText (setting host partials given) Render.depthLimit views
        template).outcome { engine.session with memo := [] }
      (rendered.1, { engine with session := { rendered.2 with memo := engine.session.memo } }) := by
  unfold renderDirectly
  rw [coerced]
  rfl

/-- A cache that has been cleared is sound. -/
theorem cacheSound_clearCache (engine : Engine σ) : engine.clearCache.session.CacheSound := by
  intro cache member entry inside
  obtain ⟨held, _, rfl⟩ := Option.map_eq_some_iff.mp member
  cases inside

/-- An engine without a cache, or with an empty one. -/
theorem cacheSound_withEmpty (engine : Engine σ) (enabled : Option Bool) :
    (engine.withCache (enabled.map Cache.empty)).session.CacheSound := by
  intro cache member entry inside
  obtain ⟨_, _, rfl⟩ := Option.map_eq_some_iff.mp member
  cases inside

/-- **The cache of an engine in use is sound.** -/
theorem cacheSound_of_reached (reached : engine.Reached) : engine.session.CacheSound := by
  induction reached with
  | new host enabled => exact cacheSound_withEmpty (new host none) enabled
  | parse template tags _ hypothesis =>
    exact (parse_beside (beside_refl hypothesis) template tags).2.session.sound
  | parseDirectly template tags _ hypothesis =>
    exact (parseDirectly_beside (beside_refl hypothesis) template tags).2.session.sound
  | render host template views partials config _ hypothesis =>
    exact (render_beside (beside_refl hypothesis) host template views partials
      config).2.session.sound
  | renderDirectly host template views partials config _ hypothesis =>
    exact (renderDirectly_beside (beside_refl hypothesis) host template views partials
      config).2.session.sound
  | renderTokens host tokens views partials template config _ hypothesis =>
    exact (renderTokens_beside (beside_refl hypothesis) host tokens views partials template
      config).2.session.sound
  | @clearCache engine _ _ => exact engine.cacheSound_clearCache
  | withCache _ filled _ => exact filled
  | withDefaults tags escape _ hypothesis => exact hypothesis
  | withHost host _ hypothesis => exact hypothesis

end Engine

end Mustache
