import Mustache.Proofs.CatalogueValues
import Mustache.Proofs.DataViews
import Mustache.Proofs.EnsuredSteps
import Mustache.Proofs.EscapedText
import Mustache.Proofs.Nesting
import Mustache.Proofs.ReachedEngines

/-!
**What is escaped stays escaped.**

A template may have all its variables escaped, and no markup in its own texts, and so may the
partials that it includes. If it is rendered with views of data and the standard escape, there is no
markup in the output: what comes from the views is escaped, or a number, which has nothing to
escape. Nothing of a view is parsed again, as there is no function in it.

* `Setting.Includes`, `Setting.Reaches`: the texts that are parsed for a template, and their nodes.
* `Session.OfData`, `Views.OfData`: sessions and views of data.
* `keeps_variable`, `keeps_partial`, `keeps_block`: variables, partials and sections.
* `keeps_token`, `keeps_tokens`: **a tree.**
* `keeps_renderText`: **a template with its partials.**
* `Engine.renderDirectly_escaped`: **the main statement.**
-/

set_option linter.unusedSectionVars false

namespace Mustache

variable {σ : Type}

/-! ### What is parsed -/

/-- A partial as a tag on a line includes it: indented if its tag is the first one there. -/
def HostLine.includes (host : HostLine) (text : String) : String :=
  if host.tagIndex = 0 ∧ host.indentation ≠ "" then
    indentPartial text host.indentation host.hasNonBlank
  else text

namespace Setting

/-- A text that is found for the name of a partial in some session. -/
def Finds (setting : Setting σ) (name text : String) : Prop :=
  ∃ session, ((Render.findPartial setting name).outcome session).1 = .ok (some text)

/-- **The texts that are parsed for a template**: itself, and the partials that are included by
what is parsed, as they are indented. -/
inductive Includes (setting : Setting σ) (delimiters : Delimiters) (template : String) :
    String → Prop
  | template : Includes setting delimiters template template
  | included {text content : String} {tree : List Token} {span : Span} {host : HostLine} :
      Includes setting delimiters template text → parse delimiters text = .ok tree →
      .partialTag span host ∈ Token.preorder tree → setting.Finds span.value content →
      Includes setting delimiters template (host.includes content)

/-- **A node of one of the trees** that are made for a template. -/
def Reaches (setting : Setting σ) (delimiters : Delimiters) (template : String) (node : Token) :
    Prop :=
  ∃ text tree, setting.Includes delimiters template text ∧ parse delimiters text = .ok tree ∧
    node ∈ Token.preorder tree

/-- **What holds of all nodes**, if it holds of those of some texts among which the template is, and
all that these texts include. -/
theorem reaches_of_closed {setting : Setting σ} {delimiters : Delimiters} {template : String}
    {holds : Token → Prop} {texts : List String} (own : template ∈ texts)
    (closed : ∀ text ∈ texts, ∀ tree, parse delimiters text = .ok tree →
      ∀ node ∈ Token.preorder tree, holds node ∧ ∀ span host, node = .partialTag span host →
        ∀ content, setting.Finds span.value content → host.includes content ∈ texts) :
    ∀ node, setting.Reaches delimiters template node → holds node := by
  have listed : ∀ text, setting.Includes delimiters template text → text ∈ texts := by
    intro text includes
    induction includes with
    | template => exact own
    | included _ parsed member finds hypothesis =>
      exact (closed _ hypothesis _ parsed _ member).2 _ _ rfl _ finds
  rintro node ⟨text, tree, includes, parsed, member⟩
  exact (closed text (listed text includes) tree parsed node member).1

end Setting

/-! ### Data -/

/-- **A session of data**: its cache is sound, and what its frame remembers was found among data. -/
structure Session.OfData (things : Thing → Bool) (session : Session σ) : Prop where
  cache : session.CacheSound
  memo : ∀ entry ∈ session.memo, Value.Obtained (Value.isDatum things) entry.2

/-- Views of data. -/
def Views.OfData (things : Thing → Bool) (views : Views) : Prop :=
  ∀ view ∈ views.view :: views.outer, view.isData things = true

variable {things : Thing → Bool}

theorem Views.OfData.push {views : Views} (data : views.OfData things) {view : Value}
    (here : view.isData things = true) : (views.push view).OfData things :=
  List.forall_mem_cons.mpr ⟨here, data⟩

theorem Value.isOrdinary_of_isData {value : Value} (data : value.isData things = true) :
    value.isOrdinary things = true := by
  cases value with
  | int _ shown =>
    cases shown with
    | none => rfl
    | some _ => cases data
  | thing own => exact data
  | _ => rfl

/-- What a piece contributes is good. -/
def Piece.Holds (good : String → Prop) : Piece → Prop
  | text content => good content
  | nothing => True
  | notText => True

namespace Render

open Mustache.Action

variable {setting : Setting σ} {views : Views}

/-! ### Steps -/

theorem keeps_lookup (keeps : setting.host.Keeps (Value.isDatum things))
    (data : views.OfData things) (name : String) :
    Ensures (Session.OfData things) (fun value => value.isData things = true)
      (lookup setting views name) := by
  simp only [Value.isData_eq]
  refine ensures_lookup Value.isDatum_lenient.closed keeps (fun view member => ?_)
    (fun _ called => ?_) (fun _ kept => kept.memo) (fun _ _ _ kept known => ⟨kept.cache, known⟩)
    name
  · rw [← Value.isData_eq]
    exact data view member
  · cases called

theorem keeps_textOf {kept : Session σ → Prop} (value : Value) :
    Ensures kept (fun content => value.outputText = .ok content) (textOf value) := by
  unfold textOf
  split
  · rename_i content written
    exact ensures_pure written
  · exact ensures_throw _

/-- A body in a frame of its own. -/
theorem keeps_inNewFrame {α : Type} {answers : α → Prop} {step : Action σ α}
    (ensures : Ensures (Session.OfData things) answers step) :
    Ensures (Session.OfData things) answers (inNewFrame step) :=
  ensures_inNewFrame ensures (fun _ data => ⟨data.cache, nofun⟩)
    fun _ _ before after => ⟨after.cache, before.memo⟩

/-- Parsing leaves a session of data as one, and what it answers is parsed. -/
theorem keeps_parse (delimiters : Delimiters) (text : String) :
    Ensures (Session.OfData things) (fun tree => Mustache.parse delimiters text = .ok tree.tokens)
      (Action.parse delimiters text : Action σ Tree) :=
  ensures_parse (fun _ kept => kept.cache)
    (fun _ _ kept sound same => ⟨sound, by rw [same]; exact kept.memo⟩) delimiters text

/-! ### Partials -/

/-- Looking for a partial leaves a session of data as one. -/
theorem keeps_search (name : String) :
    Ensures (Session.OfData things) (fun _ => True) (findPartial setting name) := by
  have told : Ensures (Session.OfData things) (fun _ => True)
      (note (.partialMissing name) : Action σ Unit) :=
    fun _ data => ⟨⟨data.cache, data.memo⟩, fun _ _ => trivial⟩
  -- what is done with a text or none, once it is known
  have noted : ∀ found : Option String, True → Ensures (Session.OfData things) (fun _ => True)
      (if found.isNone then do
          let _ ← note (.partialMissing name)
          pure found
        else (pure found : Action σ (Option String))) := by
    intro found _
    refine ensures_ite (fun _ => ?_) fun _ => ensures_pure trivial
    exact ensures_bind told fun _ _ => ensures_pure trivial
  have known : ∀ found : Option String,
      Ensures (Session.OfData things) (fun _ => True) (pure found : Action σ (Option String)) :=
    fun _ => ensures_pure trivial
  obtain ⟨_, partials, tags, _⟩ := setting
  unfold findPartial
  cases partials with
  | absent => exact ensures_bind (known none) noted
  | table entries =>
    have listed : Ensures (Session.OfData things) (fun _ => True)
        (Action.ofExcept (Partials.inTable? entries tags.closing name) : Action σ (Option Value)) :=
      ensures_ofExcept fun _ _ => trivial
    refine ensures_bind listed fun entry _ => ?_
    cases entry with
    | none => exact ensures_bind (known none) noted
    | some value =>
      cases value with
      | text content => exact ensures_bind (known (some content)) noted
      | null => exact ensures_bind (known none) noted
      | _ =>
        refine ensures_ite (fun _ => ?_) fun _ => ensures_bind (known (some "")) noted
        exact ensures_bind (ensures_throw _) noted
  | lookup ask =>
    refine ensures_bind (fun session data => ?_) noted
    exact ⟨⟨data.cache, data.memo⟩, fun _ _ => trivial⟩

/-- What is found for a partial is what may be found for it. -/
theorem keeps_findPartial (name : String) :
    Ensures (Session.OfData things) (fun found => ∀ text ∈ found, setting.Finds name text)
      (findPartial setting name) := by
  intro session data
  refine ⟨(keeps_search name session data).1, fun found same text member => ⟨session, ?_⟩⟩
  rw [same, Option.mem_def.mp member]

/-- **A partial**, if what it includes is good. -/
theorem keeps_partial {good : String → Prop} {render : String → Action σ String} {name : String}
    {host : HostLine}
    (renders : ∀ text, setting.Finds name text →
      Ensures (Session.OfData things) good (render (host.includes text))) :
    Ensures (Session.OfData things) (Piece.Holds good)
      (renderPartial setting render name host) := by
  unfold renderPartial
  refine ensures_ite (fun _ => ?_) fun _ => ensures_pure trivial
  refine ensures_bind (keeps_findPartial name) fun found may => ?_
  cases found with
  | none => exact ensures_pure trivial
  | some text => exact ensures_map (renders text (may text rfl)) fun _ here => here

/-! ### Variables -/

section Good

variable {good : String → Prop} (carried : Escape.Carried good)

include carried

/-- **A variable of data is escaped**, or it is a number, which is its own escape. -/
theorem keeps_variable {kept : Session σ → Prop} (standard : setting.escape = .standard)
    {value : Value} (data : value.isData things = true) :
    Ensures kept (Piece.Holds good) (renderVariable setting true value : Action σ Piece) := by
  unfold renderVariable
  refine ensures_ite (fun _ => ensures_pure trivial) fun _ => ?_
  refine ensures_bind (keeps_textOf value) fun content written => ?_
  rw [standard]
  refine ensures_pure ?_
  show good (if value.isNumber then content else Escape.html content)
  split
  · rename_i number
    rw [← Escape.html_eq
      (Value.literal_outputText (Value.isOrdinary_of_isData data) number written)]
    exact carried.html content
  · exact carried.html content

theorem join?_good {pieces : List Piece} {content : String}
    (each : ∀ piece ∈ pieces, piece.Holds good) (joined : Piece.join? pieces = some content) :
    good content := by
  induction pieces generalizing content with
  | nil =>
    cases joined
    exact carried.empty
  | cons piece rest hypothesis =>
    obtain ⟨here, later⟩ := List.forall_mem_cons.mp each
    cases piece with
    | text own =>
      obtain ⟨others, found, rfl⟩ := Option.map_eq_some_iff.mp joined
      exact carried.append here (hypothesis later found)
    | nothing => exact hypothesis later joined
    | notText => cases joined

theorem keeps_joinPieces {kept : Session σ → Prop} {pieces : List Piece}
    (each : ∀ piece ∈ pieces, piece.Holds good) :
    Ensures kept good (joinPieces pieces : Action σ String) := by
  unfold joinPieces
  split
  · rename_i content joined
    exact ensures_pure (join?_good carried each joined)
  · exact ensures_throw _

theorem join_good {parts : List String} (each : ∀ part ∈ parts, good part) :
    good (String.join parts) := by
  induction parts with
  | nil => exact carried.empty
  | cons part rest hypothesis =>
    obtain ⟨here, later⟩ := List.forall_mem_cons.mp each
    rw [String.join_cons]
    exact carried.append here (hypothesis later)

/-! ### Trees -/

/-- **A node that contributes nothing but what is good**, if all that it includes does. -/
def Contributes (things : Thing → Bool) (good : String → Prop) (setting : Setting σ)
    (again : Views → String → Action σ String) : Token → Prop
  | .text span => good span.value
  | .interpolation escaped _ => escaped = true
  | .partialTag span host => ∀ views : Views, views.OfData things →
      Ensures (Session.OfData things) (Piece.Holds good)
        (renderPartial setting (again views) span.value host)
  | _ => True

variable {again : Views → String → Action σ String}
  {expansion : Views → Span → Int → Value → Action σ Piece}
  (keeps : setting.host.Keeps (Value.isDatum things))

include keeps

/-- **A section**, from its body: its value is data, so it is not expanded by a function. -/
theorem keeps_block {inverted : Bool} {span : Span} {body : List Token} {stop : Int}
    (bodies : ∀ views : Views, views.OfData things →
      Ensures (Session.OfData things) (fun pieces => ∀ piece ∈ pieces, piece.Holds good)
        (renderPieces setting.search setting again expansion views body))
    {views : Views} (data : views.OfData things) :
    Ensures (Session.OfData things) (Piece.Holds good)
      (renderToken setting.search setting again expansion views
        (.block inverted span body stop)) := by
  have texts : ∀ views : Views, views.OfData things → Ensures (Session.OfData things) good
      (renderPieces setting.search setting again expansion views body >>= joinPieces) :=
    fun views data => ensures_bind (bodies views data) fun _ there => keeps_joinPieces carried there
  have pieces : ∀ views : Views, views.OfData things →
      Ensures (Session.OfData things) (Piece.Holds good)
      (do let pieces ← renderPieces setting.search setting again expansion views body
          Piece.text <$> joinPieces pieces) := fun views data =>
    ensures_bind (bodies views data) fun _ there =>
      ensures_map (keeps_joinPieces carried there) fun _ whole => whole
  cases inverted with
  | true =>
    unfold renderToken
    refine ensures_bind (keeps_lookup keeps data span.value) fun value here => ?_
    exact ensures_ite (fun _ => ensures_pure trivial) fun _ => pieces views data
  | false =>
    unfold renderToken
    refine ensures_bind (keeps_lookup keeps data span.value) fun value here => ?_
    refine ensures_ite (fun _ => ensures_pure trivial) fun _ => ?_
    obtain ⟨noAccessor, noLambda⟩ := Value.kind_data here
    cases kind : value.kind with
    | list =>
      refine ensures_bind (ensures_mapM fun item member => keeps_inNewFrame
        (texts _ (data.push (Value.isData_listItems? here item member)))) fun parts each => ?_
      exact ensures_pure (join_good carried each)
    | sectionLambda => exact absurd kind noLambda
    | accessor => exact absurd kind noAccessor
    | object => exact keeps_inNewFrame (pieces _ (data.push here))
    | string => exact keeps_inNewFrame (pieces _ (data.push here))
    | number => exact keeps_inNewFrame (pieces _ (data.push here))
    | boolean => exact pieces views data
    | null => exact pieces views data
    | missing => exact pieces views data

variable (standard : setting.escape = .standard)

include standard

mutual

/-- **A token of a tree.** -/
theorem keeps_token : (token : Token) →
    (∀ node ∈ token.nodes, Contributes things good setting again node) →
    ∀ views : Views, views.OfData things → Ensures (Session.OfData things) (Piece.Holds good)
      (renderToken setting.search setting again expansion views token)
  | .text span, nodes, _, _ => by
    unfold renderToken
    exact ensures_pure (nodes (.text span) (by simp [Token.nodes]))
  | .interpolation escaped span, nodes, views, data => by
    have own : escaped = true := nodes (.interpolation escaped span) (by simp [Token.nodes])
    subst own
    unfold renderToken
    exact ensures_bind (keeps_lookup keeps data span.value) fun value here =>
      keeps_variable carried standard here
  | .block inverted span body stop, nodes, _, data =>
    keeps_block carried keeps (keeps_tokens body fun node member =>
      nodes node (List.mem_cons_of_mem _ member)) data
  | .partialTag span host, nodes, views, data => by
    have own := nodes (.partialTag span host) (by simp [Token.nodes])
    unfold renderToken
    exact own views data
  | .close _, _, _, _ => by
    unfold renderToken
    exact ensures_pure trivial
  | .comment _, _, _, _ => by
    unfold renderToken
    exact ensures_pure trivial
  | .delimiters _, _, _, _ => by
    unfold renderToken
    exact ensures_pure trivial

/-- **The tokens of a tree.** -/
theorem keeps_tokens : (tokens : List Token) →
    (∀ node ∈ Token.preorder tokens, Contributes things good setting again node) →
    ∀ views : Views, views.OfData things →
      Ensures (Session.OfData things) (fun pieces => ∀ piece ∈ pieces, piece.Holds good)
        (renderPieces setting.search setting again expansion views tokens)
  | [], _, _, _ => by
    unfold renderPieces
    exact ensures_pure nofun
  | token :: rest, nodes, views, data => by
    rw [Token.preorder] at nodes
    unfold renderPieces
    refine ensures_bind (keeps_token token (fun node member =>
      nodes node (List.mem_append_left _ member)) views data) fun piece here => ?_
    refine ensures_bind (keeps_tokens rest (fun node member =>
      nodes node (List.mem_append_right _ member)) views data) fun pieces there => ?_
    exact ensures_pure (List.forall_mem_cons.mpr ⟨here, there⟩)

end

/-! ### Templates -/

/-- **A template with its partials.** -/
theorem keeps_renderText {delimiters : Delimiters} {template : String}
    (resolved : setting.tags.resolve = .ok delimiters)
    (escaped : ∀ span, ¬ setting.Reaches delimiters template (.interpolation false span))
    (texts : ∀ span, setting.Reaches delimiters template (.text span) → good span.value)
    (depth : Nat) : ∀ text, setting.Includes delimiters template text → ∀ views : Views,
      views.OfData things →
        Ensures (Session.OfData things) good (renderText setting depth views text) := by
  induction depth with
  | zero => exact fun _ _ _ _ => ensures_throw _
  | succ depth hypothesis =>
    intro text includes views data
    rw [renderText_succ resolved]
    refine ensures_bind (keeps_parse delimiters text) fun tree parsed => ?_
    have nodes : ∀ node ∈ Token.preorder tree.tokens,
        Contributes things good setting (renderText setting depth) node := by
      intro node member
      have reaches : setting.Reaches delimiters template node :=
        ⟨text, tree.tokens, includes, parsed, member⟩
      cases node with
      | text span => exact texts span reaches
      | interpolation own span =>
        cases own with
        | true => exact rfl
        | false => exact absurd reaches (escaped span)
      | partialTag span host =>
        exact fun views data => keeps_partial fun content found =>
          hypothesis _ (.included includes parsed member found) views data
      | _ => exact trivial
    exact ensures_bind (keeps_tokens carried keeps standard tree.tokens nodes views data)
      fun pieces each => keeps_joinPieces carried each

end Good

end Render

namespace Engine

open Mustache.Action

variable {engine : Engine σ} {host : Host σ} {partials : Partials σ} {config : ConfigSource}
  {given : RenderConfig} {delimiters : Delimiters} {template : String} {views : Views}

/-- What is carried over from escaped texts holds of a rendering, if it holds of all texts that
appear in the trees. -/
theorem renderDirectly_carried {good : String → Prop} (carried : Escape.Carried good)
    (reached : engine.Reached) (keeps : host.Keeps (Value.isDatum things))
    (coerced : RenderConfig.coerce config = .ok given)
    (standard : given.resolvedEscape = .standard)
    (resolved : given.resolvedTags.resolve = .ok delimiters)
    (escaped : ∀ span,
      ¬ (setting host partials given).Reaches delimiters template (.interpolation false span))
    (texts : ∀ span, (setting host partials given).Reaches delimiters template (.text span) →
      good span.value)
    (data : views.OfData things) {output : String}
    (rendered : (engine.renderDirectly host template views partials config).1 = .ok output) :
    good output := by
  have start : ({ engine.session with memo := [] } : Session σ).OfData things :=
    ⟨cacheSound_of_reached reached, nofun⟩
  obtain ⟨_, answers⟩ := Render.keeps_renderText carried keeps standard resolved escaped texts
    Render.depthLimit template .template views data _ start
  unfold renderDirectly at rendered
  rw [coerced] at rendered
  exact answers output rendered

/-- **What is escaped stays escaped.** All variables of a template and its partials are escaped, no
markup stands in the texts that appear in their trees, and the views are data: then there is no
markup in what is rendered. If there is no ampersand in those texts either, all that are rendered
start entities. The attributes of data are up to the host, as long as they are data themselves or
methods that answer data. -/
theorem renderDirectly_escaped (reached : engine.Reached)
    (keeps : host.Keeps (Value.isDatum things))
    (coerced : RenderConfig.coerce config = .ok given)
    (standard : given.resolvedEscape = .standard)
    (resolved : given.resolvedTags.resolve = .ok delimiters)
    (escaped : ∀ span,
      ¬ (setting host partials given).Reaches delimiters template (.interpolation false span))
    (texts : ∀ span, (setting host partials given).Reaches delimiters template (.text span) →
      Escape.Unmarked span.value)
    (data : views.OfData things) {output : String}
    (rendered : (engine.renderDirectly host template views partials config).1 = .ok output) :
    Escape.Unmarked output ∧
      ((∀ span, (setting host partials given).Reaches delimiters template (.text span) →
        '&' ∉ span.value.toList) → Escape.Entities output) :=
  ⟨renderDirectly_carried Escape.carried_unmarked reached keeps coerced standard resolved escaped
      texts data rendered,
    fun absent => renderDirectly_carried Escape.carried_entities reached keeps coerced standard
      resolved escaped (fun span reaches => Escape.entities_of_not_mem (absent span reaches)) data
      rendered⟩

/-- A variable, a list of numbers, and a partial on a line of its own. -/
def escapedTemplate : String :=
  "\x7b\x7bx\x7d\x7d:\x7b\x7b#n\x7d\x7d \x7b\x7b.\x7d\x7d\x7b\x7b/n\x7d\x7d\n" ++
    "  \x7b\x7b>p\x7d\x7d\n"

/-- A partial with a method of a text. -/
def escapedPartial : String := "(\x7b\x7bx.upper\x7d\x7d)\n"

/-- The only partial there is. -/
def escapedPartials : Partials Counts := .table [("p", .text escapedPartial)]

/-- A text with markup and an ampersand, and two numbers. -/
def escapedView : Value :=
  .mapping [(.text "x", .text "<a&"), (.text "n", .list [.ofInt (-3), .float ⟨0x3FF8000000000000⟩])]

/-- What is rendered: escaped, but for the numbers. -/
def escapedOutput : String := "&lt;a&amp;: -3 1.5\n  (&lt;A&amp;)\n"

/-- Whether a node is no raw variable, its text holds nothing that is escaped, and what it includes
is the partial, indented by two blanks. -/
def isTame : Token → Bool
  | .text span => Escape.Literal span.value
  | .interpolation escaped _ => escaped
  | .partialTag span host =>
    span.value == "p" && host.includes escapedPartial == "  " ++ escapedPartial
  | _ => true

theorem isTame_of_reaches : ∀ node, (setting (Recipe.host #[]) escapedPartials {}).Reaches
    .standard escapedTemplate node → isTame node = true := by
  have checked : ([escapedTemplate, "  " ++ escapedPartial].all fun text =>
      (Mustache.parse .standard text).toOption.all fun tree =>
        (Token.preorder tree).all isTame) = true := by
    decide +kernel
  have own : escapedTemplate ∈ [escapedTemplate, "  " ++ escapedPartial] := List.mem_cons_self
  refine Setting.reaches_of_closed own fun text listed tree parsed node member => ?_
  have all := List.all_eq_true.mp checked text listed
  rw [parsed] at all
  have tame := List.all_eq_true.mp all node member
  refine ⟨tame, ?_⟩
  rintro span host rfl content ⟨session, found⟩
  obtain ⟨name, indented⟩ := Bool.and_eq_true_iff.mp tame
  rw [eq_of_beq name] at found
  obtain rfl : escapedPartial = content := Option.some.inj (Except.ok.inj found)
  rw [eq_of_beq indented]
  exact List.mem_cons_of_mem _ List.mem_cons_self

theorem renderDirectly_escaped_partial :
    let engine : Engine Counts := new [] (some (.empty true))
    let rendered := engine.renderDirectly (Recipe.host #[]) escapedTemplate ⟨escapedView, []⟩
      escapedPartials (.ready {})
    engine.Reached ∧ (Recipe.host #[]).Keeps (Value.isDatum fun _ => false) ∧
      rendered.1.toOption = some escapedOutput ∧ Escape.Unmarked escapedOutput ∧
      Escape.Entities escapedOutput := by
  intro engine rendered
  have reached : engine.Reached := .new [] (some true)
  have keeps : (Recipe.host #[]).Keeps (Value.isDatum fun _ => false) :=
    Value.isDatum_lenient.keeps #[]
  have output : rendered.1.toOption = some escapedOutput := by decide +kernel
  have answered : rendered.1 = .ok escapedOutput := by
    cases result : rendered.1 with
    | error fault =>
      rw [result] at output
      cases output
    | ok content =>
      rw [result] at output
      exact congrArg Except.ok (Option.some.inj output)
  have data : (Views.mk escapedView []).OfData fun _ => false :=
    List.forall_mem_cons.mpr ⟨by decide, nofun⟩
  have plain : ∀ span, (setting (Recipe.host #[]) escapedPartials {}).Reaches .standard
      escapedTemplate (.text span) → Escape.Literal span.value := fun span reaches =>
    of_decide_eq_true (isTame_of_reaches _ reaches)
  obtain ⟨unmarked, entities⟩ := renderDirectly_escaped reached keeps rfl rfl rfl
    (fun span reaches => Bool.false_ne_true (isTame_of_reaches _ reaches))
    (fun span reaches char member => Escape.markup_subset (plain span reaches char member))
    data answered
  exact ⟨reached, keeps, output, unmarked, entities fun span reaches member =>
    plain span reaches '&' member List.mem_cons_self⟩

end Engine

end Mustache
