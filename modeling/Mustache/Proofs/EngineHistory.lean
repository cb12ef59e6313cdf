import Mustache.Proofs.ReachedEngines

/-!
**What an engine did before makes no difference.**

Whatever an engine was made to do, it parses and renders as a new engine does that has no cache and
the same defaults: the cache answers what parsing answers, and what one call is given is forgotten
after it.

* `Engine.Operation`, `Engine.answers`: what can be done with an engine, and what it answers.
* `Engine.answersAfresh`: what new engines answer instead.
* `perform_beside`: **one operation on two engines with different caches.**
* `Engine.answers_eq_answersAfresh`: **the main statement.**
-/

namespace Mustache

variable {σ : Type}

namespace Engine

open Mustache.Action

/-! ### Operations -/

/-- What can be done with an engine. -/
inductive Operation (σ : Type) where
  | parse (template : String) (tags : Value)
  | parseDirectly (template : String) (tags : Value)
  | render (host : Host σ) (template : Value) (views : Views) (partials : Partials σ)
      (config : ConfigSource)
  | renderDirectly (host : Host σ) (template : String) (views : Views) (partials : Partials σ)
      (config : ConfigSource)
  | clearCache
  /-- No cache any more, or a new one. -/
  | setCache (enabled : Option Bool)
  | setTags (tags : Value)
  | setEscape (escape : Option Escape)

/-- What an engine answers: trees that are made at different times are the same if their tokens
are. -/
inductive Answer where
  | tree (result : Except Fault (List Token))
  | text (result : Except Fault String)
  | nothing

namespace Operation

/-- What an engine answers, and the engine after that. -/
def perform : Operation σ → Engine σ → Answer × Engine σ
  | parse template tags, engine =>
    let (result, after) := engine.parse template tags
    (.tree (result.map Tree.tokens), after)
  | parseDirectly template tags, engine =>
    let (result, after) := engine.parseDirectly template tags
    (.tree (result.map Tree.tokens), after)
  | render host template views partials config, engine =>
    let (result, after) := engine.render host template views partials config
    (.text result, after)
  | renderDirectly host template views partials config, engine =>
    let (result, after) := engine.renderDirectly host template views partials config
    (.text result, after)
  | clearCache, engine => (.nothing, engine.clearCache)
  | setCache enabled, engine => (.nothing, engine.withCache (enabled.map Cache.empty))
  | setTags tags, engine => (.nothing, { engine with tags := tags })
  | setEscape escape, engine => (.nothing, { engine with escape := escape })

/-- The default delimiters after an operation: they change when they are set. -/
def tagsAfter (tags : Value) : Operation σ → Value
  | setTags given => given
  | _ => tags

/-- The default escape after an operation. -/
def escapeAfter (escape : Option Escape) : Operation σ → Option Escape
  | setEscape given => given
  | _ => escape

end Operation

/-- What an engine answers to operations one after the other. -/
def answers : List (Operation σ) → Engine σ → List Answer
  | [], _ => []
  | operation :: rest, engine =>
    (operation.perform engine).1 :: answers rest (operation.perform engine).2

/-- An engine after operations one after the other. -/
def performAll : List (Operation σ) → Engine σ → Engine σ
  | [], engine => engine
  | operation :: rest, engine => performAll rest (operation.perform engine).2

/-- A new engine without a cache, with the defaults set. -/
def afresh (host : σ) (tags : Value) (escape : Option Escape) : Engine σ :=
  { new host none with tags := tags, escape := escape }

/-- **What new engines answer**, one for each operation: with the defaults that were set last, and
with the host in the state in which the operation before has left it. -/
def answersAfresh : List (Operation σ) → σ → Value → Option Escape → List Answer
  | [], _, _, _ => []
  | operation :: rest, host, tags, escape =>
    let (answer, after) := operation.perform (afresh host tags escape)
    answer :: answersAfresh rest after.session.host (operation.tagsAfter tags)
      (operation.escapeAfter escape)

/-! ### One operation -/

variable {engine other : Engine σ}

/-- **One operation on two engines with different caches**: they answer the same, and again differ
in their caches only. -/
theorem perform_beside (beside : engine.Beside other) (operation : Operation σ) :
    (operation.perform engine).1 = (operation.perform other).1 ∧
      (operation.perform engine).2.Beside (operation.perform other).2 := by
  have ⟨tags, escape, host, sound, otherSound⟩ := beside
  cases operation with
  | parse template given =>
    obtain ⟨same, after⟩ := parse_beside beside template given
    exact ⟨congrArg Answer.tree same, after⟩
  | parseDirectly template given =>
    obtain ⟨same, after⟩ := parseDirectly_beside beside template given
    exact ⟨congrArg Answer.tree same, after⟩
  | render own template views partials config =>
    obtain ⟨same, after⟩ := render_beside beside own template views partials config
    exact ⟨congrArg Answer.text same, after⟩
  | renderDirectly own template views partials config =>
    obtain ⟨same, after⟩ := renderDirectly_beside beside own template views partials config
    exact ⟨congrArg Answer.text same, after⟩
  | clearCache =>
    exact ⟨rfl, tags, escape, host, cacheSound_clearCache engine, cacheSound_clearCache other⟩
  | setCache enabled =>
    exact ⟨rfl, tags, escape, host, cacheSound_withEmpty engine enabled,
      cacheSound_withEmpty other enabled⟩
  | setTags given => exact ⟨rfl, rfl, escape, host, sound, otherSound⟩
  | setEscape given => exact ⟨rfl, tags, rfl, host, sound, otherSound⟩

/-- Defaults change when they are set, and not by what a call is given. -/
theorem perform_defaults (engine : Engine σ) (operation : Operation σ) :
    (operation.perform engine).2.tags = operation.tagsAfter engine.tags ∧
      (operation.perform engine).2.escape = operation.escapeAfter engine.escape := by
  cases operation with
  | parse template given =>
    show (engine.parse template given).2.tags = engine.tags ∧ _
    unfold parse
    cases given <;> exact ⟨rfl, rfl⟩
  | render own template views partials config =>
    show (engine.render own template views partials config).2.tags = engine.tags ∧
      (engine.render own template views partials config).2.escape = engine.escape
    rcases engine.render_cases own template views partials config with
      ⟨_, same, _⟩ | ⟨_, _, _, same⟩
    · rw [same]
      exact ⟨rfl, rfl⟩
    · rw [same]
      exact ⟨rfl, rfl⟩
  | _ => exact ⟨rfl, rfl⟩

/-! ### Runs -/

theorem cacheSound_afresh (host : σ) (tags : Value) (escape : Option Escape) :
    (afresh host tags escape).session.CacheSound := by
  intro cache held
  cases held

/-- **Each answer in a run is that of a new engine.** -/
theorem answers_afresh (operations : List (Operation σ)) (sound : engine.session.CacheSound) :
    answers operations engine =
      answersAfresh operations engine.session.host engine.tags engine.escape := by
  induction operations generalizing engine with
  | nil => rfl
  | cons operation rest hypothesis =>
    have beside : engine.Beside (afresh engine.session.host engine.tags engine.escape) :=
      ⟨rfl, rfl, rfl, sound, cacheSound_afresh _ _ _⟩
    obtain ⟨same, after⟩ := perform_beside beside operation
    obtain ⟨tags, escape⟩ := perform_defaults engine operation
    unfold answers answersAfresh
    rw [hypothesis after.session.sound, same, after.session.host, tags, escape]

theorem cacheSound_performAll (operations : List (Operation σ))
    (sound : engine.session.CacheSound) :
    (performAll operations engine).session.CacheSound := by
  induction operations generalizing engine with
  | nil => exact sound
  | cons operation rest hypothesis =>
    have beside : engine.Beside engine := ⟨rfl, rfl, rfl, sound, sound⟩
    exact hypothesis (perform_beside beside operation).2.session.sound

/-- **What an engine did before makes no difference.** Each answer of an engine in use is that of a
new engine without a cache, which has the defaults that were set last. After any operations each
entry of the cache holds what its template is parsed to with its delimiters, be that no tokens at
all; so there is none for a template that is not parsed. -/
theorem answers_eq_answersAfresh (host : σ) (enabled : Option Bool)
    (operations : List (Operation σ)) :
    let start := new host (enabled.map Cache.empty)
    answers operations start = answersAfresh operations host start.tags start.escape ∧
      ∀ cache, (performAll operations start).session.cache = some cache →
        (∀ entry ∈ cache.entries, Mustache.parse entry.1.2 entry.1.1 = .ok entry.2.tokens) ∧
        ∀ template delimiters fault, Mustache.parse delimiters template = .error fault →
          cache.contains (template, delimiters) = false := by
  intro start
  have sound : start.session.CacheSound := cacheSound_of_reached (.new host enabled)
  refine ⟨answers_afresh operations sound, fun cache held => ?_⟩
  have entries := cacheSound_performAll operations sound cache held
  refine ⟨entries, fun template delimiters fault failed => ?_⟩
  unfold Cache.contains
  cases found : cache.entries.lookup (template, delimiters) with
  | none => rfl
  | some tree =>
    obtain ⟨before, after, split, _⟩ := List.lookup_eq_some_iff.mp found
    have parsed := entries ((template, delimiters), tree) (by rw [split]; simp)
    cases failed.symm.trans parsed

/-- A template of no tokens, one that is not parsed, and delimiters that are set, used and given to
one call. -/
def history : List (Operation Unit) :=
  [.parse "" .null, .render Host.idle (.text "\x7b\x7b") ⟨.null, []⟩ .absent (.ready {}),
    .setTags (.text "< >"), .parse "<a>" .null, .parse "<a>" (.text "[ ]"), .parse "<a>" .null]

theorem answers_eq_answersAfresh_history :
    let start : Engine Unit := new () (some (.empty true))
    answers history start = answersAfresh history () start.tags start.escape ∧
      ∃ cache, (performAll history start).session.cache = some cache ∧
        cache.entries.map (fun entry => (entry.1.1, entry.1.2.opening)) =
          [("", "\x7b\x7b"), ("<a>", "<"), ("<a>", "[")] ∧
        cache.contains ("\x7b\x7b", .standard) = false := by
  intro start
  obtain ⟨same, kept⟩ := answers_eq_answersAfresh () (some true) history
  cases held : (performAll history start).session.cache with
  | none =>
    have some : (performAll history start).session.cache.isSome = true := by decide +kernel
    rw [held] at some
    cases some
  | some cache =>
    have keys : ((performAll history start).session.cache.map fun cache =>
        cache.entries.map fun entry => (entry.1.1, entry.1.2.opening)) =
          some [("", "\x7b\x7b"), ("<a>", "<"), ("<a>", "[")] := by decide +kernel
    rw [held] at keys
    have failed : (Mustache.parse .standard "\x7b\x7b").toOption = none := by decide +kernel
    cases parsed : Mustache.parse .standard "\x7b\x7b" with
    | ok tokens =>
      rw [parsed] at failed
      cases failed
    | error fault =>
      exact ⟨same, cache, rfl, Option.some.inj keys,
        (kept cache held).2 "\x7b\x7b" .standard fault parsed⟩

end Engine

end Mustache
