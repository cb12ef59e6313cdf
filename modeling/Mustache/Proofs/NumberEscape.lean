import Mustache.Proofs.CatalogueValues
import Mustache.Proofs.EnsuredSteps
import Mustache.Proofs.EscapedText
import Mustache.Proofs.ReachedEngines
import Mustache.Proofs.Remembering

/-!
**Numbers need not be escaped.**

The standard escape is not asked for numbers. Another escape that does the same to every text is
asked for numbers as well, and there it has nothing to do: if no number has a text of its own, the
two come to the same, with the same calls of the functions of the views.

* `isOrdinary_lenient`: whatever comes of ordinary values is ordinary.
* `Host.Ordinary`: attributes, methods and functions that come to ordinary values.
* `Ordinary`: frames and sessions of ordinary values, beside themselves.
* `renderVariable_escape`: **a variable.**
* `relates_lookup_ordinary`, `relates_tree_ordinary`, `relates_renderText_ordinary`: names, trees
  and templates with their partials and their functions.
* `Engine.renderDirectly_numberEscape`: **the main statement.**
-/

namespace Mustache

open Mustache.Action Value

variable {σ : Type} {things : Thing → Bool}

theorem Value.isOrdinary_lenient : Lenient (isOrdinary things) where
  plain {value} plain := by
    cases value with
    | int _ shown =>
      cases shown with
      | none => rfl
      | some _ => cases plain
    | thing _ => cases plain
    | _ => rfl
  accessor _ := rfl
  sectionLambda _ := rfl
  knot _ := rfl

/-- **A host of ordinary values**: the attributes of ordinary values are ordinary, and its methods
and functions answer ordinary values to ordinary values. -/
structure Host.Ordinary (things : Thing → Bool) (host : Host σ) : Prop where
  keeps : host.Keeps (isOrdinary things)
  answers {function : HostFunction} {values : List Value} {state : σ} {value : Value} :
    (∀ value ∈ values, value.throughout (isOrdinary things) = true) →
    (host.call function values state).1 = .ok value → value.throughout (isOrdinary things) = true

theorem Host.Ordinary.apply {host : Host σ} (ordinary : host.Ordinary things)
    {function : HostFunction} {values : List Value}
    (whole : ∀ value ∈ values, value.throughout (isOrdinary things) = true) {state : σ}
    {value : Value} (applied : (host.apply function values state).1 = .ok value) :
    value.throughout (isOrdinary things) = true := by
  unfold Host.apply at applied
  split at applied
  · exact ordinary.answers whole applied
  · cases applied

/-- Writing calls down changes no answers. -/
theorem Host.Ordinary.logged {host : Host σ} (ordinary : host.Ordinary things) :
    host.logged.Ordinary things where
  keeps := {
    read := ordinary.keeps.read
    answer := fun whole answered => ordinary.keeps.answer whole answered }
  answers whole answered := ordinary.answers whole answered

/-- An escape that does the same as the standard one, to every text. -/
def Escape.ActsStandard (answer : String → Except Fault Escaped) : Prop :=
  ∀ text, answer text = .ok (.text (Escape.html text))

namespace Render

/-- **Frames and sessions of ordinary values**, beside themselves. -/
structure Ordinary (things : Thing → Bool) (views others : Views) (session other : Session σ) :
    Prop where
  chain : views = others
  whole : ∀ view ∈ views.view :: views.outer, view.throughout (isOrdinary things) = true
  same : session = other
  memo : ∀ entry ∈ session.memo, Obtained (isOrdinary things) entry.2

theorem framed_ordinary :
    Framed (fun value => value.throughout (isOrdinary things) = true)
      (Ordinary things (σ := σ)) where
  push here ordinary := {
    chain := by rw [ordinary.chain]
    whole := List.forall_mem_cons.mpr ⟨here, ordinary.whole⟩
    same := by rw [ordinary.same]
    memo := nofun }
  pop before after := {
    chain := before.chain
    whole := before.whole
    same := by rw [before.same, after.same]
    memo := before.memo }
  items here := throughout_listItems? isOrdinary_lenient.closed here

theorem ordinary_coupling (things : Thing → Bool) (views others : Views) :
    Session.Coupling Eq (Ordinary things (σ := σ) views others) where
  states ordinary := congrArg Session.host ordinary.same
  withHost same ordinary :=
    ⟨ordinary.chain, ordinary.whole, by rw [same, ordinary.same], ordinary.memo⟩
  withNotes _ ordinary :=
    ⟨ordinary.chain, ordinary.whole, by rw [ordinary.same], ordinary.memo⟩

variable {setting : Setting σ} {name : String} {answer : String → Except Fault Escaped}

/-- **A variable is written alike**: what the standard escape leaves out, the other one leaves as it
is. -/
theorem renderVariable_escape (standard : setting.escape = .standard)
    (acts : Escape.ActsStandard answer) (escaped : Bool) {value : Value}
    (ordinary : value.isOrdinary things = true) :
    renderVariable setting escaped value =
      renderVariable { setting with escape := .custom name answer } escaped value := by
  unfold renderVariable
  cases value.isNothing with
  | true => rfl
  | false =>
    unfold textOf
    cases written : value.outputText with
    | error fault => rfl
    | ok content =>
      cases escaped with
      | false => rfl
      | true =>
        simp only [pure_bind, standard]
        have done : (if value.isNumber then content else Escape.html content) =
            Escape.html content := by
          split
          · rename_i number
            exact (Escape.html_eq (literal_outputText ordinary number written)).symm
          · rfl
        show pure (Piece.text (if value.isNumber then content else Escape.html content)) =
          Piece.ofEscaped <$> Action.ofExcept (answer content)
        rw [done, acts content]
        rfl

variable (standard : setting.escape = .standard) (acts : Escape.ActsStandard answer)
  (ordinary : setting.host.Ordinary things)

include ordinary in
/-- A name stands for the same, which is ordinary. -/
theorem relates_lookup_ordinary (views others : Views) (asked : String) :
    Relates (Ordinary things views others) (fun _ => True)
      (fun value image => value = image ∧ value.throughout (isOrdinary things) = true)
      (lookup setting views asked)
      (lookup { setting with escape := .custom name answer } others asked) := by
  intro session other together
  obtain ⟨rfl, whole, rfl, known⟩ := together
  have ensures : Ensures (fun session : Session σ => ∀ entry ∈ session.memo,
        Obtained (isOrdinary things) entry.2)
      (fun value => value.throughout (isOrdinary things) = true)
      (lookup setting views asked) :=
    ensures_lookup isOrdinary_lenient.closed ordinary.keeps whole
      (fun _ _ _ whole _ _ applied => ordinary.apply whole applied)
      (fun _ known => known) (fun _ _ _ _ known => known) asked
  exact relates_of_ensures (fun _ _ together => ⟨together.same, together.memo⟩)
    (fun _ _ _ _ known => ⟨rfl, whole, rfl, known⟩) ensures session session
    ⟨rfl, whole, rfl, known⟩

include standard acts ordinary

/-- **A tree**, whose partials and callbacks come to the same. -/
theorem relates_tree_ordinary {again anew : Views → String → Action σ String}
    (renders : ∀ views others text, Relates (Ordinary things views others) (fun _ => True) Eq
      (again views text) (anew others text))
    (text : String) (tree : List Token) (views others : Views) :
    Relates (Ordinary things views others) (fun _ => True) Eq
      (renderPieces setting.search setting again (renderExpansion setting again (some text)) views
        tree)
      (renderPieces setting.search { setting with escape := .custom name answer } anew
        (renderExpansion { setting with escape := .custom name answer } anew (some text)) others
        tree) := by
  have themselves : Token.AllAlike Eq tree tree :=
    Token.allAlike_of_level (fun _ _ _ _ => rfl) tree .root fun _ inside => inside
  refine relates_renderPieces ?_ ?_ ?_ themselves views others
  · rintro escaped span _ ⟨⟩ views others
    unfold renderToken
    refine relates_bind (relates_lookup_ordinary ordinary views others span.value)
      fun value _ same => ?_
    obtain ⟨rfl, whole⟩ := same
    rw [← renderVariable_escape standard acts escaped (throughout_own whole)]
    exact relates_renderVariable (fun _ _ => trivial) (setting.alike_refl fun _ => trivial) escaped
      value
  · rintro inverted span body stop _ _ _ ⟨⟩ bodies views others
    refine relates_blockOf framed_ordinary trivial
      (relates_lookup_ordinary ordinary views others span.value) bodies fun _ value _ _ => ?_
    refine relates_renderExpansion (ordinary_coupling things views others) (fun _ _ => trivial)
      (renders views others) (fun function body host _ same => ?_) value rfl
    subst same
    exact Script.alike_refl (fun _ => trivial) _
  · rintro span host _ _ ⟨⟩ views others
    unfold renderToken
    -- partials have nothing to do with the escape
    show Relates _ _ _ (renderPartial setting (again views) span.value host)
      (renderPartial setting (anew others) span.value host)
    exact relates_renderPartial (ordinary_coupling things views others) (fun _ _ => trivial)
      (setting.alike_refl fun _ => trivial) (renders views others) span.value host

/-- **A template**, with its partials and its functions. -/
theorem relates_renderText_ordinary (depth : Nat) (views others : Views) (text : String) :
    Relates (Ordinary things views others) (fun _ => True) Eq (renderText setting depth views text)
      (renderText { setting with escape := .custom name answer } depth others text) := by
  induction depth generalizing views others text with
  | zero => exact relates_throw trivial
  | succ depth hypothesis =>
    cases resolved : setting.tags.resolve with
    | error fault =>
      have also : ({ setting with escape := .custom name answer } : Setting σ).tags.resolve =
        .error fault := resolved
      rw [renderText_unresolved resolved, renderText_unresolved also]
      exact relates_throw trivial
    | ok delimiters =>
      have also : ({ setting with escape := .custom name answer } : Setting σ).tags.resolve =
        .ok delimiters := resolved
      rw [renderText_succ resolved, renderText_succ also]
      have parses : Ensures (fun session : Session σ => ∀ entry ∈ session.memo,
            Obtained (isOrdinary things) entry.2) (fun _ => True)
          (Action.parse delimiters text) := by
        refine fun session known => ⟨fun entry member => known entry ?_, fun _ _ => trivial⟩
        rwa [← (outcome_parse_frame delimiters text session).2]
      refine relates_bind (relates_of_ensures (fun _ _ together => ⟨together.same, together.memo⟩)
        (fun _ _ _ together known => ⟨together.chain, together.whole, rfl, known⟩) parses)
        fun tree _ same => ?_
      obtain ⟨rfl, _⟩ := same
      exact relates_body (relates_tree_ordinary standard acts ordinary hypothesis text tree.tokens
        views others) trivial

end Render

/-- **Two configurations that differ in the escape only**: the standard one, and another one that
does the same. -/
def RenderConfig.EscapesAlike (given other : RenderConfig) : Prop :=
  given.resolvedTags = other.resolvedTags ∧ given.resolvedEscape = .standard ∧
    ∃ name answer, other.resolvedEscape = .custom name answer ∧ Escape.ActsStandard answer

namespace Engine

open Mustache.Render

/-- A rendering with the standard escape, and with another one that does the same. -/
theorem renderDirectly_escapesAlike {host : Host σ} (ordinary : host.Ordinary things)
    {views : Views}
    (whole : ∀ view ∈ views.view :: views.outer, view.throughout (isOrdinary things) = true)
    {config other : ConfigSource} (configs : SameOutcome (fun _ => True) RenderConfig.EscapesAlike
      (RenderConfig.coerce config) (RenderConfig.coerce other))
    (engine : Engine σ) (template : String) (partials : Partials σ) :
    engine.renderDirectly host template views partials config =
      engine.renderDirectly host template views partials other := by
  generalize coerced : RenderConfig.coerce config = first at configs
  generalize again : RenderConfig.coerce other = second at configs
  cases configs with
  | error _ =>
    unfold renderDirectly
    rw [coerced, again]
  | @ok given otherwise alike =>
    obtain ⟨tags, standard, name, answer, custom, acts⟩ := alike
    have settings : setting host partials otherwise =
        { setting host partials given with escape := .custom name answer } := by
      unfold setting
      rw [tags, custom]
    have start : Ordinary things views views { engine.session with memo := [] }
        { engine.session with memo := [] } := ⟨rfl, whole, rfl, nofun⟩
    have relates : Relates (Ordinary things views views) (fun _ => True) Eq
        (renderText (setting host partials given) depthLimit views template)
        (renderText (setting host partials otherwise) depthLimit views template) := by
      rw [settings]
      exact relates_renderText_ordinary standard acts ordinary depthLimit views views template
    obtain ⟨same, after⟩ := relates _ _ start
    rw [renderDirectly_eq engine host template views partials coerced,
      renderDirectly_eq engine host template views partials again]
    simp only [same.eq, after.same]

/-- **That numbers are not escaped makes no difference.** All numbers in the views are shown by
their digits, and the attributes, the methods and the functions of the host keep to that. Then every
template with all its partials comes to the same, or to the same fault, with the standard escape and
with another one that does the same to every text; the same engine is left, and the same functions
are called, in the same order and with the same values. -/
theorem renderDirectly_numberEscape {host : Host σ} (ordinary : host.Ordinary things)
    {views : Views}
    (whole : ∀ view ∈ views.view :: views.outer, view.throughout (isOrdinary things) = true)
    {config other : ConfigSource} (configs : SameOutcome (fun _ => True) RenderConfig.EscapesAlike
      (RenderConfig.coerce config) (RenderConfig.coerce other)) :
    (∀ (engine : Engine σ) template partials,
      engine.renderDirectly host template views partials config =
        engine.renderDirectly host template views partials other) ∧
    ∀ (engine : Engine (σ × List HostCall)) template partials,
      engine.renderDirectly host.logged template views partials config =
        engine.renderDirectly host.logged template views partials other :=
  ⟨renderDirectly_escapesAlike ordinary whole configs,
    renderDirectly_escapesAlike ordinary.logged whole configs⟩

/-- Numbers: one by itself, those of a list, that of a computed property, and one in a partial. -/
def numberTemplate : String :=
  "\x7b\x7bn\x7d\x7d \x7b\x7b#l\x7d\x7d\x7b\x7b.\x7d\x7d;\x7b\x7b/l\x7d\x7d \x7b\x7bc\x7d\x7d " ++
    "\x7b\x7b>p\x7d\x7d"

/-- A partial with a number and a text. -/
def numberPartials : Partials (Counts × List HostCall) :=
  .table [("p", .text "\x7b\x7bn.real\x7d\x7d\x7b\x7bt\x7d\x7d")]

/-- A number, a list of numbers, a counter and a text. -/
def numberView : Value :=
  .mapping [(.text "n", .ofInt (-3)), (.text "l", .list [.float ⟨0x3FF8000000000000⟩, .ofInt 2]),
    (.text "c", .accessor ⟨0, ⟨"Fn", "count"⟩, 1⟩), (.text "t", .text "<")]

theorem renderDirectly_numberEscape_copy :
    let host := Recipe.host #[.counter]
    let things : Thing → Bool := fun _ => false
    let views : Views := ⟨numberView, []⟩
    let copy : Escape := .ofFunction "copy" Escape.html
    let engine : Engine (Counts × List HostCall) := new ([], []) none
    let rendered := engine.renderDirectly host.logged numberTemplate views numberPartials
      (.ready ⟨none, some copy⟩)
    host.Ordinary things ∧
      (∀ view ∈ views.view :: views.outer, view.throughout (isOrdinary things) = true) ∧
      engine.renderDirectly host.logged numberTemplate views numberPartials (.ready {}) = rendered ∧
      rendered.1.toOption = some "-3 1.5;2; 1 -3&lt;" ∧
      rendered.2.session.host.1 = [(0, 1)] := by
  intro host things views copy engine rendered
  have ordinary : host.Ordinary things := by
    refine ⟨isOrdinary_lenient.keeps #[.counter], ?_⟩
    rintro ⟨handle, guise, arity⟩ values state value _ answered
    cases handle with
    | zero =>
      cases answered
      rfl
    | succ handle =>
      cases answered
      rfl
  have whole : ∀ view ∈ views.view :: views.outer, view.throughout (isOrdinary things) = true :=
    List.forall_mem_cons.mpr ⟨by decide, nofun⟩
  have alike : RenderConfig.EscapesAlike {} ⟨none, some copy⟩ :=
    ⟨rfl, rfl, "copy", _, rfl, fun _ => rfl⟩
  have configs : SameOutcome (fun _ => True) RenderConfig.EscapesAlike
      (RenderConfig.coerce (.ready {})) (RenderConfig.coerce (.ready ⟨none, some copy⟩)) :=
    .ok alike
  have same := (renderDirectly_numberEscape ordinary whole configs).2 engine numberTemplate
    numberPartials
  exact ⟨ordinary, whole, same, by decide +kernel, by decide +kernel⟩

end Engine

end Mustache
