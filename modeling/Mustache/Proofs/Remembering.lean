import Mustache.Proofs.RenderingsSideBySide
import Mustache.Render.Engine
import Mustache.View.Recipe

/-!
**What frames remember makes no difference.**

A frame remembers the raw values that it found. Since the views stay as they are while a template is
rendered, it would find the same ones each time: a rendering whose frames remember nothing answers
the same, and calls the same functions in the same order. What is remembered are raw values, not
what becomes of them, so that an accessor is called once for each time that its name is looked up.

* `Frame.searchAfresh`: a name looked for along the views each time.
* `Memo.Faithful`: a memory that holds what would be found.
* `Render.memoryPairing`: a session with a memory beside the same one with any memory.
* `HostCall`, `Host.logged`: the calls of the functions of a view, in their order.
* `Engine.renderTokensAfresh`, `Engine.renderDirectlyAfresh`: renderings without a memory.
* `Engine.render_afresh`: **the main statement.**
* `Engine.not_render_afresh_stale`: it does not hold of frames that remember what is no longer so.
-/

namespace Mustache

variable {σ : Type}

/-! ### Memories -/

/-- The search of a frame without a memory: the point names the view itself, and any other name is
looked for along the views each time. -/
def Frame.searchAfresh (access : Access) : Frame.Search := fun view outer memo name =>
  (if name = "." then .ok view else Frame.find access name (view :: outer), memo)

/-- The way in which frames without a memory find names in a rendering. -/
def Setting.searchAfresh (setting : Setting σ) : Frame.Search :=
  Frame.searchAfresh setting.host.access

/-- **A memory that holds what would be found** in the frame of some views. -/
def Memo.Faithful (access : Access) (views : Views) (memo : Memo) : Prop :=
  ∀ name value, name ≠ "." → memo.lookup name = some value →
    Frame.find access name (views.view :: views.outer) = .ok value

namespace Memo

variable {access : Access}

theorem faithful_nil (access : Access) (views : Views) : Faithful access views [] := by
  intro name value other found
  cases found

theorem Faithful.cons {views : Views} {memo : Memo} {name : String} {value : Value}
    (faithful : memo.Faithful access views)
    (here : Frame.find access name (views.view :: views.outer) = .ok value) :
    Faithful access views ((name, value) :: memo) := by
  intro asked raw other found
  by_cases same : asked = name
  · subst same
    rw [List.lookup_cons_self] at found
    cases found
    exact here
  · rw [List.lookup_cons, beq_false_of_ne same] at found
    exact faithful asked raw other found

end Memo

namespace Frame

variable {access : Access}

/-- **A faithful memory answers what the search afresh answers**, and stays faithful. -/
theorem lookup_eq_searchAfresh {views : Views} {memo : Memo} (faithful : memo.Faithful access views)
    (name : String) :
    (lookup access views.view views.outer memo name).1 =
        (searchAfresh access views.view views.outer memo name).1 ∧
      Memo.Faithful access views (lookup access views.view views.outer memo name).2 := by
  unfold lookup searchAfresh
  by_cases point : name = "."
  · rw [if_pos point]
    simp only [if_pos point]
    exact ⟨trivial, faithful⟩
  · rw [if_neg point]
    simp only [if_neg point]
    cases known : memo.lookup name with
    | some value => exact ⟨(faithful name value point known).symm, faithful⟩
    | none =>
      cases found : find access name (views.view :: views.outer) with
      | error fault => exact ⟨rfl, faithful⟩
      | ok value => exact ⟨rfl, faithful.cons found⟩

/-- What a search leaves behind: a fault leaves no trace, and what was found is remembered. -/
theorem lookup_memo (access : Access) (view : Value) (outer : List Value) (memo : Memo)
    (name : String) :
    match (lookup access view outer memo name).1 with
    | .error _ => (lookup access view outer memo name).2 = memo
    | .ok raw => name ≠ "." → (lookup access view outer memo name).2.lookup name = some raw := by
  unfold lookup
  by_cases point : name = "."
  · rw [if_pos point]
    exact fun other => absurd point other
  · rw [if_neg point]
    cases known : memo.lookup name with
    | some value => exact fun _ => known
    | none =>
      cases find access name (view :: outer) with
      | error fault => rfl
      | ok value => exact fun _ => List.lookup_cons_self

end Frame

/-! ### Calls -/

/-- A call of a function of a view: of a method, with values, or with the raw body of a section. -/
inductive HostCall where
  | sent (receiver : Value) (name : String)
  | called (function : HostFunction) (values : List Value)
  | ran (function : HostFunction) (body : String)
  deriving Repr

/-- A host that writes down all its calls. -/
def Host.logged (host : Host σ) : Host (σ × List HostCall) where
  access := host.access
  invoke receiver name := fun (state, calls) =>
    ((host.invoke receiver name state).1, (host.invoke receiver name state).2,
      calls ++ [.sent receiver name])
  call function values := fun (state, calls) =>
    ((host.call function values state).1, (host.call function values state).2,
      calls ++ [.called function values])
  expand function body := fun (state, calls) =>
    (host.expand function body state).beside (calls ++ [.ran function body])

/-- The call that is made for a raw value: an accessor is called with the view of the frame, any
other function without arguments, if that is what it takes, and so is a method. -/
def HostCall.ofRaw (view : Value) : Value → List HostCall
  | .accessor function => if function.takes 1 then [called function [view]] else []
  | .function function => if function.takes 0 then [called function []] else []
  | .method (.accessor _) _ => []
  | .method receiver name => [sent receiver name]
  | _ => []

/-- **A raw value is settled with one call at most**, which is made each time. -/
theorem Frame.settle_logged (host : Host σ) (view raw : Value) (state : σ)
    (calls : List HostCall) :
    settle host.logged view raw (state, calls) =
      ((settle host view raw state).1, (settle host view raw state).2,
        calls ++ HostCall.ofRaw view raw) := by
  have applied : ∀ (function : HostFunction) (values : List Value),
      host.logged.apply function values (state, calls) =
        ((host.apply function values state).1, (host.apply function values state).2,
          calls ++ if function.takes values.length then [.called function values] else []) := by
    intro function values
    unfold Host.apply
    split
    · rfl
    · rw [List.append_nil]
  cases raw with
  | accessor function => exact applied function [view]
  | function function => exact applied function []
  | method receiver name =>
    cases receiver with
    | accessor function => simp [settle, Host.send, HostCall.ofRaw]
    | _ => rfl
  | _ => simp [settle, HostCall.ofRaw]

namespace Render

open Mustache.Action

/-! ### Renderings -/

/-- A session whose memory is faithful beside the same one with any memory. -/
def memoryPairing (access : Access) : Pairing σ σ where
  related views beside session other :=
    views = beside ∧ session.memo.Faithful access views ∧
      other = { session with memo := other.memo }
  push view := by
    rintro ⟨rfl, _, same⟩
    rw [same]
    exact ⟨rfl, Memo.faithful_nil _ _, rfl⟩
  pop := by
    rintro views _ session after other later view ⟨rfl, faithful, _⟩ ⟨_, _, same⟩
    rw [same]
    exact ⟨rfl, faithful, rfl⟩

/-- Parsing does not look at the memory. -/
theorem outcome_parse_memo (delimiters : Delimiters) (template : String) (session : Session σ)
    (memo : Memo) :
    (Action.parse delimiters template).outcome { session with memo := memo } =
      (((Action.parse delimiters template).outcome session).1,
        { ((Action.parse delimiters template).outcome session).2 with memo := memo }) := by
  unfold outcome Action.parse ofStep
  simp only
  split
  · rfl
  · split
    · rfl
    · rfl

theorem memoryPairing_coupling (access : Access) (views beside : Views) :
    Session.Coupling Eq ((memoryPairing access (σ := σ)).related views beside) where
  states := by
    rintro session other ⟨_, _, same⟩
    rw [same]
  withHost := by
    rintro session other host _ rfl ⟨rfl, faithful, same⟩
    rw [same]
    exact ⟨rfl, faithful, rfl⟩
  withNotes notes := by
    rintro ⟨rfl, faithful, same⟩
    rw [same]
    exact ⟨rfl, faithful, rfl⟩

theorem memoryPairing_parses (access : Access) (views beside : Views) :
    ParsesAlike ((memoryPairing access (σ := σ)).related views beside) (fun _ => True)
      fun _ _ _ => True := by
  rintro delimiters template session other ⟨rfl, faithful, same⟩
  rw [same, outcome_parse_memo delimiters template session other.memo]
  have again : SameOutcome (fun _ => True) Eq
      ((Action.parse delimiters template).outcome session).1
      ((Action.parse delimiters template).outcome session).1 := sameOutcome_refl fun _ _ => trivial
  refine ⟨again.mono fun equal => ⟨congrArg Tree.tokens equal, trivial⟩, rfl, ?_, rfl⟩
  show Memo.Faithful access views ((Action.parse delimiters template).outcome session).2.memo
  rw [(outcome_parse_frame delimiters template session).2]
  exact faithful

variable {setting : Setting σ}

/-- **A name looked up with a faithful memory**, and afresh. -/
theorem agree_lookup (views beside : Views) (name : String) :
    (memoryPairing setting.host.access).Agree (fun _ => True) views beside
      (lookup setting views name)
      (lookupBy setting.searchAfresh setting beside name) := by
  rintro session other ⟨rfl, faithful, same⟩
  obtain ⟨answer, kept⟩ := Frame.lookup_eq_searchAfresh faithful name
  have host : other.host = session.host := by rw [same]
  unfold lookup Setting.search Setting.searchAfresh
  rw [outcome_lookupBy, outcome_lookupBy, host]
  generalize setting.host.access = access at answer kept
  change _ = (Frame.searchAfresh access views.view views.outer other.memo name).1 at answer
  generalize Frame.lookup access views.view views.outer session.memo name = found at answer kept
  generalize Frame.searchAfresh access views.view views.outer other.memo name = afresh at answer
  obtain ⟨result, memo⟩ := found
  obtain ⟨image, memory⟩ := afresh
  change result = image at answer
  subst answer
  cases result with
  | error fault =>
    refine ⟨.error trivial, rfl, kept, ?_⟩
    rw [same]
  | ok raw =>
    refine ⟨sameOutcome_refl fun _ _ => trivial, rfl, kept, ?_⟩
    rw [same]

/-- A template rendered, with a memory and without one. -/
theorem agree_renderText (depth : Nat) (views beside : Views) (text : String) :
    (memoryPairing setting.host.access).Agree (fun _ => True) views beside
      (renderText setting depth views text)
      (renderTextWith setting.searchAfresh (renderExpansion setting) setting depth beside text) :=
  agree_renderTextWith (memoryPairing_coupling _) (fun _ => trivial) agree_lookup
    (memoryPairing_parses _) depth views beside text

/-- A tree rendered, with a memory and without one. -/
theorem agree_renderLevel (depth : Nat) (template : Option String) (tokens : List Token)
    (views beside : Views) :
    (memoryPairing setting.host.access).Agree (fun _ => True) views beside
      (renderLevel (renderExpansion setting) setting (renderText setting depth) template views
        tokens)
      (renderLevelWith setting.searchAfresh (renderExpansion setting) setting
        (renderTextWith setting.searchAfresh (renderExpansion setting) setting depth) template
        beside tokens) :=
  agree_renderLevelWith (memoryPairing_coupling _) (fun _ => trivial) agree_lookup
    (agree_renderText depth) template tokens views beside

end Render

namespace Engine

open Mustache.Action Mustache.Render

/-- A template rendered without the defaults, whose frames remember nothing. -/
def renderDirectlyAfresh (engine : Engine σ) (host : Host σ) (template : String) (views : Views)
    (partials : Partials σ) (config : ConfigSource) : Except Fault String × Engine σ :=
  engine.run do
    let config ← Action.ofExcept (RenderConfig.coerce config)
    let setting := setting host partials config
    fresh (renderTextWith setting.searchAfresh (renderExpansion setting) setting depthLimit views
      template)

/-- A tree rendered, whose frames remember nothing. -/
def renderTokensAfresh (engine : Engine σ) (host : Host σ) (tokens : List Token) (views : Views)
    (partials : Partials σ) (template : Option String) (config : ConfigSource) :
    Except Fault String × Engine σ :=
  engine.run do
    let config ← Action.ofExcept (RenderConfig.coerce config)
    let setting := setting host partials config
    let again := renderTextWith setting.searchAfresh (renderExpansion setting) setting depthLimit
    fresh (renderLevelWith setting.searchAfresh (renderExpansion setting) setting again template
      views tokens)

/-- Whatever is rendered with some views comes to the same as without a memory, and the same engine
is left. -/
def RendersAfresh (engine : Engine σ) (host : Host σ) (views : Views) (partials : Partials σ)
    (config : ConfigSource) : Prop :=
  (∀ tokens template, engine.renderTokens host tokens views partials template config =
    engine.renderTokensAfresh host tokens views partials template config) ∧
  ∀ template, engine.renderDirectly host template views partials config =
    engine.renderDirectlyAfresh host template views partials config

/-- In a frame of its own, a step leaves the session that it leaves without a memory. -/
theorem fresh_eq {access : Access} {step other : Action σ String} {views : Views}
    (agree : (memoryPairing access).Agree (fun _ => True) views views step other)
    (session : Session σ) :
    (fresh step).outcome session = (fresh other).outcome session := by
  obtain ⟨same, _, _, after⟩ := agree { session with memo := [] } { session with memo := [] }
    ⟨rfl, Memo.faithful_nil _ views, rfl⟩
  show ((step.outcome { session with memo := [] }).1,
      { (step.outcome { session with memo := [] }).2 with memo := session.memo }) =
    ((other.outcome { session with memo := [] }).1,
      { (other.outcome { session with memo := [] }).2 with memo := session.memo })
  rw [same.eq, after]

/-- Renderings whose configuration is read first. -/
theorem run_fresh_eq {engine : Engine σ} {config : ConfigSource}
    {step other : RenderConfig → Action σ String}
    (same : ∀ given session, (fresh (step given)).outcome session =
      (fresh (other given)).outcome session) :
    (engine.run do
      let given ← Action.ofExcept (RenderConfig.coerce config)
      fresh (step given)) =
    (engine.run do
      let given ← Action.ofExcept (RenderConfig.coerce config)
      fresh (other given)) := by
  have steps : (Action.ofExcept (RenderConfig.coerce config) >>= fun given =>
        fresh (step given)).outcome engine.session =
      (Action.ofExcept (RenderConfig.coerce config) >>= fun given =>
        fresh (other given)).outcome engine.session := by
    rw [outcome_bind, outcome_bind]
    cases RenderConfig.coerce config with
    | error fault => rfl
    | ok given => exact same given engine.session
  exact congrArg (fun reached => (reached.1, { engine with session := reached.2 })) steps

theorem rendersAfresh (engine : Engine σ) (host : Host σ) (views : Views) (partials : Partials σ)
    (config : ConfigSource) : engine.RendersAfresh host views partials config := by
  refine ⟨fun tokens template => ?_, fun template => ?_⟩
  · exact run_fresh_eq fun given session =>
      fresh_eq (agree_renderLevel depthLimit template tokens views views) session
  · exact run_fresh_eq fun given session =>
      fresh_eq (agree_renderText depthLimit views views template) session

/-- A name looked up in a frame with a faithful memory, where calls are written down. -/
theorem lookup_logged (host : Host σ) (partials : Partials (σ × List HostCall))
    (given : RenderConfig) {views : Views} {session : Session (σ × List HostCall)}
    (faithful : session.memo.Faithful host.access views) (name : String) :
    match (Frame.searchAfresh host.access views.view views.outer [] name).1 with
    | .error fault => (lookup (setting host.logged partials given) views name).outcome session =
        (.error fault, session)
    | .ok raw => ∃ memo, memo.Faithful host.access views ∧
        (name ≠ "." → memo.lookup name = some raw) ∧
        (lookup (setting host.logged partials given) views name).outcome session =
          ((Frame.settle host views.view raw session.host.1).1, { session with
            memo := memo
            host := ((Frame.settle host views.view raw session.host.1).2,
              session.host.2 ++ HostCall.ofRaw views.view raw) }) := by
  obtain ⟨answer, kept⟩ := Frame.lookup_eq_searchAfresh faithful name
  have remembered := Frame.lookup_memo host.access views.view views.outer session.memo name
  have outcome := outcome_lookupBy (Frame.lookup host.access) (setting host.logged partials given)
    views name session
  change _ = (Frame.searchAfresh host.access views.view views.outer [] name).1 at answer
  change (lookup (setting host.logged partials given) views name).outcome session = _ at outcome
  rw [outcome, ← answer]
  generalize Frame.lookup host.access views.view views.outer session.memo name = found
    at kept remembered
  obtain ⟨result, memo⟩ := found
  cases result with
  | error fault =>
    change memo = session.memo at remembered
    rw [remembered]
  | ok raw =>
    refine ⟨memo, kept, remembered, ?_⟩
    have settled := Frame.settle_logged host views.view raw session.host.1 session.host.2
    change Frame.settle host.logged views.view raw session.host = _ at settled
    simp only [setting, settled]

/-- A counter is looked up for sections, at the top and for each item of a list. -/
def countedTemplate : String :=
  "\x7b\x7b#c\x7d\x7da\x7b\x7b/c\x7d\x7d\x7b\x7b#l\x7d\x7d\x7b\x7b#c\x7d\x7db\x7b\x7b/c\x7d\x7d" ++
    "\x7b\x7b^c\x7d\x7dd\x7b\x7b/c\x7d\x7d\x7b\x7b/l\x7d\x7d\x7b\x7b#c\x7d\x7de\x7b\x7b/c\x7d\x7d"

/-- A view with a counter and a list of two items. -/
def countedView : Value :=
  .mapping [(.text "c", .accessor ⟨0, ⟨"Fn", "count"⟩, 1⟩), (.text "l", .list [.null, .null])]

/-- A view that holds a number. -/
def formerView : Value := .mapping [(.text "a", .ofInt 1)]

/-- The one variable of a template. -/
def changedTokens : List Token := [.interpolation true ⟨"a", 0, 5⟩]

end Engine

end Mustache
