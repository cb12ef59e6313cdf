import Mustache.Proofs.EnsuredSteps
import Mustache.Proofs.OneLineViews
import Mustache.Proofs.ReachedEngines
import Mustache.Proofs.Remembering
import Mustache.Proofs.ReturnedTemplates
import Mustache.View.Recipe

/-!
**Line ends make no difference to a rendering.**

A template may be written with a carriage return before each line feed. Its tree has the same tags,
and its texts have the carriage returns; what its variables write for views of texts of one line has
no line feed in it. So what is rendered has a carriage return before each line feed, and is the same
otherwise. An attribute whose name holds a line feed is shown with it, and no carriage return is put
before that one.

* `Render.OneLine`: levels of a tree, frames and sessions that a rendering may come to.
* `relates_lookup_oneLine`, `relates_variable_returned`: **a name and a variable.**
* `relates_tree_returned`, `relates_renderText_withReturns`: trees and templates.
* `Engine.renderDirectly_withReturns`: **the main statement.**
-/

namespace Mustache

open Mustache.Action Value

variable {σ : Type}

/-- The standard escape brings in no line feed. -/
theorem Text.OneLine.html {text : String} (one : OneLine text) : OneLine (Escape.html text) := by
  have entity : ∀ char : Char, char ≠ '\n' → (Escape.entity char).all (· != '\n') = true := by
    intro char plain
    unfold Escape.entity
    split
    case h_9 => rw [List.all_cons, bne_iff_ne.mpr plain]; rfl
    all_goals rfl
  refine allOf_ofList fun char member => ?_
  obtain ⟨source, inside, written⟩ := List.mem_flatMap.mp member
  exact bne_iff_ne.mp (List.all_eq_true.mp (entity source (one source inside)) char written)

/-- A test of everything but the names of attributes: a value that cannot be called, and no scalar
of which has a text with a line feed. -/
def Value.isOneLineScalar : Value → Bool
  | object _ => true
  | value => value.isOneLine

namespace Render

/-- **A level of a tree, in a frame that the rendering may come to**, beside the same frame, and
sessions that remember the same, which is still so, and have the same state of the host. -/
structure OneLine (host : Host σ) (tree : List Token) (start : Views) (siblings : List Token)
    (views others : Views) (session other : Session σ) : Prop where
  chain : views = others
  visits : host.Visits tree start siblings views
  memo : session.memo = other.memo
  known : session.memo.Faithful host.access views
  states : session.host = other.host

variable {setting : Setting σ} {tree siblings : List Token} {start : Views}

/-- **The body of a section** is entered with what the name of the section comes to. -/
theorem entered_oneLine {host : Host σ} {inverted : Bool} {span : Span} {body : List Token}
    {stop : Int} (member : .block inverted span body stop ∈ siblings) (views others : Views) :
    Entered (fun value => host.Visits tree start siblings views ∧
        Frame.Finds host views.view views.outer span.value value) inverted views others
      (OneLine host tree start siblings views others) (OneLine host tree start body) where
  stay here stays together := {
    chain := together.chain
    visits := .stay here.1 member here.2 stays
    memo := together.memo
    known := together.known
    states := together.states }
  leave before after := ⟨before.chain, before.visits, after.memo, after.known, after.states⟩
  push plain here opens together := by
    subst plain
    exact {
      chain := by rw [together.chain]
      visits := .push here.1 member here.2 opens
      memo := rfl
      known := Memo.faithful_nil _ _
      states := together.states }
  pop before after := ⟨before.chain, before.visits, before.memo, before.known, after.states⟩

/-- **A name** comes to the same. -/
theorem relates_lookup_oneLine (views others : Views) (name : String) :
    Relates (OneLine setting.host tree start siblings views others) (fun _ => True)
      (fun value image => value = image ∧ setting.host.Visits tree start siblings views ∧
        Frame.Finds setting.host views.view views.outer name value)
      (lookup setting views name) (lookup setting others name) := by
  intro session other together
  obtain ⟨rfl, visits, memo, known, states⟩ := together
  obtain ⟨fresh, still⟩ := Frame.lookup_eq_searchAfresh known name
  obtain ⟨first, _⟩ := Frame.lookup_eq_searchAfresh (Memo.faithful_nil setting.host.access views)
    name
  have anew : (Frame.lookup setting.host.access views.view views.outer session.memo name).1 =
      (Frame.lookup setting.host.access views.view views.outer [] name).1 := fresh.trans first.symm
  unfold lookup Setting.search
  rw [outcome_lookupBy, outcome_lookupBy, ← memo, ← states]
  generalize Frame.lookup setting.host.access views.view views.outer session.memo name = found
    at anew still ⊢
  obtain ⟨fault | raw, after⟩ := found
  · exact ⟨.error trivial, rfl, visits, rfl, still, rfl⟩
  · refine ⟨?_, rfl, visits, rfl, still, rfl⟩
    cases settled : (Frame.settle setting.host views.view raw session.host).1 with
    | error fault => exact .error trivial
    | ok value => exact .ok ⟨rfl, visits, raw, session.host, anew.symm, settled⟩

/-- **A variable** writes the same, as that holds no line feed. -/
theorem relates_variable_returned {related : Session σ → Session σ → Prop}
    (standard : setting.escape = .standard) (escaped : Bool) {value : Value}
    (one : ∀ content, value.outputText = .ok content → Text.OneLine content) :
    Relates related (fun _ => True)
      (Piece.Alike fun content other => other = Text.withReturns content)
      (renderVariable setting escaped value) (renderVariable setting escaped value) := by
  have written : Relates related (fun _ => True)
      (fun content image => content = image ∧ Text.OneLine content) (textOf value)
      (textOf value) := by
    unfold textOf
    cases text : value.outputText with
    | ok content => exact relates_pure ⟨rfl, one content text⟩
    | error fault => exact relates_throw trivial
  have unchanged : ∀ {content : String}, Text.OneLine content →
      Relates related (fun _ => True)
        (Piece.Alike fun content other => other = Text.withReturns content)
        (pure (.text content)) (pure (.text content)) := fun one =>
    relates_pure (.text (Text.withReturns_eq (Text.oneLine_iff.mp one)).symm)
  unfold renderVariable
  refine relates_ite (fun _ => relates_pure .nothing) fun _ => ?_
  refine relates_bind written fun content _ ⟨same, one⟩ => ?_
  subst same
  refine relates_ite (fun _ => unchanged one) fun _ => ?_
  rw [standard]
  by_cases number : value.isNumber = true
  · rw [if_pos number]
    exact unchanged one
  · rw [if_neg number]
    exact unchanged one.html

/-- **A tree** beside one with a carriage return before each line feed. -/
theorem relates_tree_returned (one : setting.host.OneLine tree start)
    (standard : setting.escape = .standard) {again anew : Views → String → Action σ String}
    {text another : String} {image : List Token}
    (alike : Token.AllAlikeBy (fun content other => other = Text.withReturns content)
      Token.SameName tree image) (views others : Views) :
    Relates (OneLine setting.host tree start tree views others) (fun _ => True)
      (List.Forall₂ (Piece.Alike fun content other => other = Text.withReturns content))
      (renderPieces setting.search setting again (renderExpansion setting again (some text)) views
        tree)
      (renderPieces setting.search setting anew (renderExpansion setting anew (some another))
        others image) := by
  refine relates_piecesBy ?_ ?_ ?_ alike (fun _ inside => inside) views others
  · intro siblings escaped span place member ⟨_, same⟩ views others
    unfold renderToken
    change place.value = span.value at same
    rw [same]
    refine relates_bind (relates_lookup_oneLine views others span.value)
      fun value _ ⟨equal, visits, finds⟩ => ?_
    subst equal
    exact relates_variable_returned standard escaped fun _ => one.written visits member finds
  · intro siblings inverted span body stop place inner limit member ⟨_, same⟩ bodies views others
    change place.value = span.value at same
    refine relates_blockBy joins_withReturns trivial (entered_oneLine member views others) ?_ bodies
      fun plain value found _ => ?_
    · rw [same]
      exact relates_lookup_oneLine views others span.value
    · -- all that can be called here are methods, which take no raw body
      subst plain
      exact relates_renderExpansion_of_not trivial (one.functionless found.1 member found.2)
  · intro siblings span host place line _ ⟨ordinary, _⟩
    exact (ordinary rfl).elim

/-- **A template** beside the one with carriage returns. -/
theorem relates_renderText_withReturns {delimiters : Delimiters} {template : String} {views : Views}
    {session other : Session σ} (one : setting.host.OneLine tree views)
    (standard : setting.escape = .standard) (resolved : setting.tags.resolve = .ok delimiters)
    (unbroken : delimiters.Unbroken) (plain : OneLineTags delimiters template)
    (parsed : Mustache.parse delimiters template = .ok tree)
    (together : OneLine setting.host tree views tree views views session other)
    (sound : session.CacheSound) (also : other.CacheSound) (depth : Nat) :
    SameOutcome (fun _ => True) (fun content other => other = Text.withReturns content)
      ((renderText setting depth views template).outcome session).1
      ((renderText setting depth views (Text.withReturns template)).outcome other).1 := by
  cases depth with
  | zero => exact .error trivial
  | succ depth =>
    obtain ⟨image, found, alike⟩ := parse_withReturns unbroken plain parsed
    obtain ⟨after, kept, left, _, same⟩ :=
      outcome_renderText_of_parse resolved sound parsed depth views
    obtain ⟨later, stays, beside, _, equal⟩ :=
      outcome_renderText_of_parse resolved also found depth views
    have still : OneLine setting.host tree views tree views views after later := {
      chain := rfl
      visits := together.visits
      memo := by rw [kept, stays, together.memo]
      known := by rw [kept]; exact together.known
      states := by rw [left, beside, together.states] }
    rw [same, equal]
    exact (relates_bodyBy joins_withReturns
      (relates_tree_returned one standard alike views views) trivial after later still).1

end Render

namespace Engine

open Mustache.Render

/-- **Line ends make no difference to a rendering.** A template without partial tags, each tag of
which stands on one line, is rendered with delimiters that contain no blank and with the standard
escape. Wherever its rendering may come, no section comes to a function, and no variable writes a
line feed. If the template has a carriage return put before each line feed, then so has what is
rendered, in any engine in use in the same state of the host; and so has what is left of its tokens,
so that a line that leaves no trace is stripped with its carriage return. -/
theorem renderDirectly_withReturns {engine other : Engine σ} (reached : engine.Reached)
    (used : other.Reached) (states : engine.session.host = other.session.host) (host : Host σ)
    (partials : Partials σ) {config : ConfigSource} {given : RenderConfig}
    {delimiters : Delimiters} {template written : String} {views : Views}
    (coerced : RenderConfig.coerce config = .ok given)
    (standard : given.resolvedEscape = .standard)
    (resolved : given.resolvedTags.resolve = .ok delimiters) (unbroken : delimiters.Unbroken)
    (plain : OneLineTags delimiters template)
    (one : ∀ tree, Mustache.parse delimiters template = .ok tree → host.OneLine tree views)
    (rendered : (engine.renderDirectly host template views partials config).1 = .ok written) :
    (other.renderDirectly host (Text.withReturns template) views partials config).1 =
        .ok (Text.withReturns written) ∧
      ∃ tokens others, tokenize delimiters template = .ok tokens ∧
        tokenize delimiters (Text.withReturns template) = .ok others ∧
        Token.Returned (Token.keep (Token.strippedIndexes tokens) tokens)
          (Token.keep (Token.strippedIndexes others) others) := by
  have sound : Session.CacheSound { engine.session with memo := [] } :=
    cacheSound_of_reached reached
  have also : Session.CacheSound { other.session with memo := [] } := cacheSound_of_reached used
  have tags : (setting host partials given).tags.resolve = .ok delimiters := resolved
  rw [renderDirectly_eq _ _ _ _ _ coerced] at rendered ⊢
  obtain ⟨tree, parsed⟩ := exists_parse_of_renderText tags sound rendered
  have together : OneLine (setting host partials given).host tree views tree views views
      { engine.session with memo := [] } { other.session with memo := [] } :=
    ⟨rfl, .root, rfl, Memo.faithful_nil _ _, states⟩
  have outcome := relates_renderText_withReturns (one tree parsed) standard tags unbroken plain
    parsed together sound also depthLimit
  obtain ⟨_, answered, rfl⟩ := outcome.exists_ok rendered
  obtain ⟨tokens, read, _⟩ := parse_eq_ok_iff.mp parsed
  obtain ⟨others, further, returned⟩ := tokenize_withReturns unbroken plain read
  exact ⟨answered, tokens, others, read, further, returned.keep⟩

/-- The items of a list, one on a line, and a number in brackets. -/
def listTemplate : String :=
  "\x7b\x7b#l\x7d\x7d\n- \x7b\x7b.\x7d\x7d\n\x7b\x7b/l\x7d\x7d\n<\x7b\x7bn\x7d\x7d>\n"

theorem renderDirectly_withReturns_list :
    let engine : Engine Counts := new [] (some (.empty true))
    let views : Views :=
      ⟨.mapping [(.text "l", .list [.text "a", .text "<"]), (.text "n", .ofInt 3)], []⟩
    let rendered := fun template =>
      (engine.renderDirectly (Recipe.host #[]) template views .absent (.ready {})).1
    engine.Reached ∧ Delimiters.standard.Unbroken ∧ OneLineTags .standard listTemplate ∧
      (∀ tree, Mustache.parse .standard listTemplate = .ok tree →
        (Recipe.host #[]).OneLine tree views) ∧
      rendered listTemplate = .ok "- a\n- &lt;\n<3>\n" ∧
      rendered (Text.withReturns listTemplate) = .ok "- a\r\n- &lt;\r\n<3>\r\n" := by
  intro engine views rendered
  have reached : engine.Reached := .new [] (some true)
  have unbroken : Delimiters.standard.Unbroken := by decide +kernel
  have plain : OneLineTags .standard listTemplate := by decide +kernel
  have one : ∀ tree, Mustache.parse .standard listTemplate = .ok tree →
      (Recipe.host #[]).OneLine tree views := fun tree _ =>
    oneLine_of_throughout #[]
      (List.forall_mem_cons.mpr ⟨by decide +kernel, List.forall_mem_nil _⟩) tree
  have found : (rendered listTemplate).toOption.map id = some "- a\n- &lt;\n<3>\n" := by
    decide +kernel
  obtain ⟨_, output, rfl⟩ := exists_ok_of_toOption_map found
  have coerced : RenderConfig.coerce (.ready {}) = .ok {} := rfl
  obtain ⟨returned, _⟩ := renderDirectly_withReturns reached reached rfl (Recipe.host #[]) .absent
    coerced rfl rfl unbroken plain one output
  have written : Text.withReturns (id "- a\n- &lt;\n<3>\n") = "- a\r\n- &lt;\r\n<3>\r\n" := by
    decide +kernel
  exact ⟨reached, unbroken, plain, one, output, written ▸ returned⟩

/-- **An attribute whose name holds a line feed** is shown with it, whatever the line ends of the
template are. -/
theorem not_withReturns_attribute :
    let engine : Engine Counts := new [] (some (.empty true))
    let view : Value := .mapping [(.text "x", .object [("a\nb", .ofInt 1)])]
    let template := "\x7b\x7bx\x7d\x7d\n"
    let rendered := fun template =>
      (engine.renderDirectly (Recipe.host #[]) template ⟨view, []⟩ .absent (.ready {})).1.toOption
    engine.Reached ∧ Delimiters.standard.Unbroken ∧ OneLineTags .standard template ∧
      view.throughout isOneLineScalar = true ∧
      rendered template = some "namespace(a\nb&#x3D;1)\n" ∧
      rendered (Text.withReturns template) = some "namespace(a\nb&#x3D;1)\r\n" ∧
      rendered (Text.withReturns template) ≠ (rendered template).map Text.withReturns := by
  intro engine view template rendered
  have output : rendered template = some "namespace(a\nb&#x3D;1)\n" ∧
      rendered (Text.withReturns template) = some "namespace(a\nb&#x3D;1)\r\n" := by
    decide +kernel
  refine ⟨.new [] (some true), by decide +kernel, by decide +kernel, by decide +kernel, output.1,
    output.2, ?_⟩
  rw [output.1, output.2]
  decide +kernel

end Engine

end Mustache
