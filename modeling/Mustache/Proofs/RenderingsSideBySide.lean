import Mustache.Proofs.Nesting
import Mustache.Proofs.SideBySide
import Mustache.Proofs.ValueFaults
import Mustache.Render.Renderer

/-!
**Two renderings side by side.**

Two renderings of trees that are alike go side by side, provided that their variables, their blocks
and their partials do. Names may be found in two ways, the hosts and the views may differ, and so
may the texts that raw bodies are cut out of.

* `Token.AlikeBy`: trees of one shape, each tag of which stands beside one of the other tree, and
  each text beside one that goes with it.
* `Joins`, `Piece.Alike`: texts that still go together when they are put together.
* `Script.Alike`, `Partials.Alike`, `Setting.Alike`: runs of functions, partials and settings that
  come to the same from states of their hosts that go together.
* `Render.Framed`, `Render.Pairing`: which sessions go together in frames with which views.
* `Render.Stays`, `Render.Opens`, `Render.Entered`: the frames in which the body of a section is
  rendered, and sessions that go together there.
* `relates_blockBy`, `relates_block`: a block, from its name, its body and its function.
* `relates_interpolation`: a variable, from its name.
* `relates_piecesBy`, `relates_renderPieces`: **a tree**, from its variables, its blocks and its
  partials.
* `relates_runScript`, `relates_renderExpansion`, `relates_renderPartial`: functions of sections and
  partials.
* `relates_renderTextWith`: **a whole rendering** in two ways.
* `agree_renderTextWith`: a rendering with one setting, where names are found in two ways.
-/

set_option linter.unusedSectionVars false

namespace Mustache

variable {σ τ : Type}

namespace Token

mutual

/-- Two tokens of one sort: texts whose contents go together, and tags that make a pair. -/
inductive AlikeBy (texts : String → String → Prop) (pair : Token → Token → Prop) :
    Token → Token → Prop
  | text {span other : Span} : texts span.value other.value →
      AlikeBy texts pair (text span) (text other)
  | interpolation {escaped : Bool} {span other : Span} :
      pair (interpolation escaped span) (interpolation escaped other) →
      AlikeBy texts pair (interpolation escaped span) (interpolation escaped other)
  | block {inverted : Bool} {span other : Span} {body inner : List Token} {stop limit : Int} :
      pair (block inverted span body stop) (block inverted other inner limit) →
      AllAlikeBy texts pair body inner →
      AlikeBy texts pair (block inverted span body stop) (block inverted other inner limit)
  | partialTag {span other : Span} {host line : HostLine} :
      pair (partialTag span host) (partialTag other line) →
      AlikeBy texts pair (partialTag span host) (partialTag other line)
  | close {span other : Span} : AlikeBy texts pair (close span) (close other)
  | comment {span other : Span} : AlikeBy texts pair (comment span) (comment other)
  | delimiters {span other : Span} : AlikeBy texts pair (delimiters span) (delimiters other)

/-- Two lists of tokens that are alike one by one. -/
inductive AllAlikeBy (texts : String → String → Prop) (pair : Token → Token → Prop) :
    List Token → List Token → Prop
  | nil : AllAlikeBy texts pair [] []
  | cons {token other : Token} {rest others : List Token} : AlikeBy texts pair token other →
      AllAlikeBy texts pair rest others → AllAlikeBy texts pair (token :: rest) (other :: others)

end

/-- Two tokens of one sort: texts with the same content, and tags that make a pair. -/
abbrev Alike (pair : Token → Token → Prop) : Token → Token → Prop := AlikeBy Eq pair

/-- Two lists of tokens that are alike one by one, texts with the same content. -/
abbrev AllAlike (pair : Token → Token → Prop) : List Token → List Token → Prop :=
  AllAlikeBy Eq pair

mutual

/-- Tokens that are alike in one way are alike in any way that comes with it. -/
theorem AlikeBy.mono {texts : String → String → Prop} {pair others : Token → Token → Prop}
    (sends : ∀ token other, pair token other → others token other) :
    {token other : Token} → AlikeBy texts pair token other → AlikeBy texts others token other
  | _, _, .text same => .text same
  | _, _, .interpolation here => .interpolation (sends _ _ here)
  | _, _, .block here inside => .block (sends _ _ here) (inside.mono sends)
  | _, _, .partialTag here => .partialTag (sends _ _ here)
  | _, _, .close => .close
  | _, _, .comment => .comment
  | _, _, .delimiters => .delimiters

theorem AllAlikeBy.mono {texts : String → String → Prop} {pair others : Token → Token → Prop}
    (sends : ∀ token other, pair token other → others token other) :
    {tokens images : List Token} → AllAlikeBy texts pair tokens images →
      AllAlikeBy texts others tokens images
  | _, _, .nil => .nil
  | _, _, .cons here later => .cons (here.mono sends) (later.mono sends)

end

mutual

/-- A token of a tree beside itself. -/
theorem alike_of_level {pair : Token → Token → Prop} {tree : List Token}
    (here : ∀ siblings token, Level tree siblings → token ∈ siblings → pair token token) :
    (token : Token) → {siblings : List Token} → Level tree siblings → token ∈ siblings →
      Alike pair token token
  | .text _, _, _, _ => .text rfl
  | .interpolation _ _, _, level, member => .interpolation (here _ _ level member)
  | .block _ _ body _, _, level, member =>
    .block (here _ _ level member)
      (allAlike_of_level here body (.body level member) fun _ inside => inside)
  | .close _, _, _, _ => .close
  | .partialTag _ _, _, level, member => .partialTag (here _ _ level member)
  | .comment _, _, _, _ => .comment
  | .delimiters _, _, _, _ => .delimiters

/-- Some tokens of a tree beside themselves. -/
theorem allAlike_of_level {pair : Token → Token → Prop} {tree : List Token}
    (here : ∀ siblings token, Level tree siblings → token ∈ siblings → pair token token) :
    (tokens : List Token) → {siblings : List Token} → Level tree siblings →
      (∀ token ∈ tokens, token ∈ siblings) → AllAlike pair tokens tokens
  | [], _, _, _ => .nil
  | token :: rest, _, level, inside =>
    .cons (alike_of_level here token level (inside token List.mem_cons_self))
      (allAlike_of_level here rest level
        fun other member => inside other (List.mem_cons_of_mem _ member))

end

mutual

/-- A token of a tree beside one that is like it, with what holds of all tokens of the tree. -/
theorem AlikeBy.of_level {texts : String → String → Prop} {pair : Token → Token → Prop}
    {good : Token → Prop} {tree : List Token}
    (here : ∀ siblings token, Level tree siblings → token ∈ siblings → good token) :
    {token other : Token} → AlikeBy texts pair token other → {siblings : List Token} →
      Level tree siblings → token ∈ siblings →
      AlikeBy texts (fun token other => pair token other ∧ good token) token other
  | _, _, .text same, _, _, _ => .text same
  | _, _, .interpolation both, _, level, member => .interpolation ⟨both, here _ _ level member⟩
  | _, _, .block both inside, _, level, member =>
    .block ⟨both, here _ _ level member⟩
      (inside.of_level here (.body level member) fun _ within => within)
  | _, _, .partialTag both, _, level, member => .partialTag ⟨both, here _ _ level member⟩
  | _, _, .close, _, _, _ => .close
  | _, _, .comment, _, _, _ => .comment
  | _, _, .delimiters, _, _, _ => .delimiters

/-- Some tokens of a tree beside some that are like them. -/
theorem AllAlikeBy.of_level {texts : String → String → Prop} {pair : Token → Token → Prop}
    {good : Token → Prop} {tree : List Token}
    (here : ∀ siblings token, Level tree siblings → token ∈ siblings → good token) :
    {tokens images : List Token} → AllAlikeBy texts pair tokens images →
      {siblings : List Token} → Level tree siblings → (∀ token ∈ tokens, token ∈ siblings) →
      AllAlikeBy texts (fun token other => pair token other ∧ good token) tokens images
  | _, _, .nil, _, _, _ => .nil
  | _, _, .cons first later, _, level, inside =>
    .cons (first.of_level here level (inside _ List.mem_cons_self))
      (later.of_level here level fun token member => inside token (List.mem_cons_of_mem _ member))

end

end Token

/-! ### Hosts, partials and settings -/

/-- **Two runs of functions that are alike**: they answer the same or fail with the same fault, or
they have the same text rendered and go on alike, whatever comes of it. -/
inductive Script.Alike (hosts : σ → τ → Prop) (allowed : Fault → Prop) :
    Script σ → Script τ → Prop
  | answer {value : Value} {state : σ} {other : τ} : hosts state other →
      Alike hosts allowed (.answer value state) (.answer value other)
  | fail {fault : Fault} {state : σ} {other : τ} : hosts state other → allowed fault →
      Alike hosts allowed (.fail fault state) (.fail fault other)
  | render {text : String} {state : σ} {other : τ} {resume : Except Fault String → σ → Script σ}
      {further : Except Fault String → τ → Script τ} : hosts state other →
      (∀ result after later, (∀ fault, result = .error fault → allowed fault) →
        hosts after later → Alike hosts allowed (resume result after) (further result later)) →
      Alike hosts allowed (.render text state resume) (.render text other further)

/-- Partials that are found alike. -/
inductive Partials.Alike (hosts : σ → τ → Prop) (allowed : Fault → Prop) :
    Partials σ → Partials τ → Prop
  | absent : Alike hosts allowed .absent .absent
  | table (entries : List (String × Value)) : Alike hosts allowed (.table entries) (.table entries)
  | lookup {ask : String → σ → PartialReply σ} {other : String → τ → PartialReply τ} :
      (∀ name host beside, hosts host beside →
        Action.SameOutcome allowed Eq (ask name host).text (other name beside).text ∧
          (ask name host).notes = (other name beside).notes ∧
          hosts (ask name host).state (other name beside).state) →
      Alike hosts allowed (.lookup ask) (.lookup other)

/-- **Two settings that are alike**: attributes and items are read in one way, methods, functions
that are called with values and partials come to the same, and the delimiters and the escape are the
same. -/
structure Setting.Alike (hosts : σ → τ → Prop) (allowed : Fault → Prop) (setting : Setting σ)
    (other : Setting τ) : Prop where
  access : setting.host.access = other.host.access
  reads {fault : Fault} : setting.host.access.Raises fault → allowed fault
  send (receiver : Value) (name : String) : HostsAgree hosts allowed Eq
    (setting.host.send receiver name) (other.host.send receiver name)
  call (function : HostFunction) (values : List Value) : HostsAgree hosts allowed Eq
    (setting.host.apply function values) (other.host.apply function values)
  partials : setting.partials.Alike hosts allowed other.partials
  tags : setting.tags = other.tags
  escape : setting.escape = other.escape
  escapes {name text : String} {answer : String → Except Fault Escaped} {fault : Fault} :
    setting.escape = .custom name answer → answer text = .error fault → allowed fault

section Free

variable {allowed : Fault → Prop} (free : ∀ fault, allowed fault)

include free

/-- A run beside itself. -/
theorem Script.alike_refl (script : Script σ) : script.Alike Eq allowed script := by
  induction script with
  | answer value state => exact .answer rfl
  | fail fault state => exact .fail rfl (free fault)
  | render text state resume hypothesis =>
    refine .render rfl fun result after later _ same => ?_
    subst same
    exact hypothesis result after

theorem Partials.alike_refl (partials : Partials σ) : partials.Alike Eq allowed partials := by
  cases partials with
  | absent => exact .absent
  | table entries => exact .table entries
  | lookup ask =>
    refine .lookup fun name host beside same => ?_
    subst same
    exact ⟨Action.sameOutcome_refl fun fault _ => free fault, rfl, rfl⟩

/-- A setting beside itself. -/
theorem Setting.alike_refl (setting : Setting σ) : setting.Alike Eq allowed setting where
  access := rfl
  reads _ := free _
  send _ _ := hostsAgree_refl _ fun _ fault _ => free fault
  call _ _ := hostsAgree_refl _ fun _ fault _ => free fault
  partials := setting.partials.alike_refl free
  tags := rfl
  escape := rfl
  escapes _ _ := free _

end Free

/-! ### Pieces -/

/-- A relation of texts that is kept where texts are put together. -/
structure Joins (texts : String → String → Prop) : Prop where
  empty : texts "" ""
  append {first second other another : String} : texts first other → texts second another →
    texts (first ++ second) (other ++ another)

theorem joins_eq : Joins Eq where
  empty := rfl
  append left right := by rw [left, right]

theorem Joins.join {texts : String → String → Prop} (joins : Joins texts)
    {parts others : List String} (alike : List.Forall₂ texts parts others) :
    texts (String.join parts) (String.join others) := by
  induction alike with
  | nil => exact joins.empty
  | cons here _ hypothesis =>
    rw [String.join_cons, String.join_cons]
    exact joins.append here hypothesis

namespace Piece

/-- Two pieces of one sort, texts of which go together. -/
inductive Alike (texts : String → String → Prop) : Piece → Piece → Prop
  | text {content other : String} : texts content other → Alike texts (text content) (text other)
  | nothing : Alike texts nothing nothing
  | notText : Alike texts notText notText

theorem alike_eq : Alike Eq = Eq := by
  funext piece other
  refine propext ⟨fun alike => ?_, fun same => ?_⟩
  · cases alike with
    | text same => rw [same]
    | nothing => rfl
    | notText => rfl
  · subst same
    cases piece with
    | text content => exact .text rfl
    | nothing => exact .nothing
    | notText => exact .notText

theorem forall₂_alike_eq : List.Forall₂ (Alike Eq) = Eq := by
  rw [alike_eq, List.forall₂_eq_eq_eq]

/-- The texts of pieces that go together, if all of them can be written. -/
theorem rel_join? {texts : String → String → Prop} (joins : Joins texts)
    {pieces others : List Piece} (alike : List.Forall₂ (Alike texts) pieces others) :
    Option.Rel texts (join? pieces) (join? others) := by
  induction alike with
  | nil => exact .some joins.empty
  | cons here _ hypothesis =>
    cases here with
    | text same =>
      unfold join?
      revert hypothesis
      generalize join? _ = first
      generalize join? _ = second
      rintro (_ | later)
      · exact .some (joins.append same ‹_›)
      · exact .none
    | nothing => exact hypothesis
    | notText => exact .none

end Piece

namespace Render

open Mustache.Action

/-- **Frames of good values** may be put on top on both sides, and left again; the items of good
values are good. -/
structure Framed (good : Value → Prop) (related : Views → Views → Session σ → Session τ → Prop) :
    Prop where
  push {views beside : Views} {session : Session σ} {other : Session τ} {view : Value} :
    good view → related views beside session other →
    related (views.push view) (beside.push view) { session with memo := [] }
      { other with memo := [] }
  pop {views beside : Views} {session after : Session σ} {other later : Session τ} {view : Value} :
    related views beside session other →
    related (views.push view) (beside.push view) after later →
    related views beside { after with memo := session.memo } { later with memo := other.memo }
  items {value : Value} : good value → ∀ item ∈ value.listItems?.getD [], good item

/-- **A body is rendered in the frame of its section**: for what counts as false in an inverted one,
and for what is true and nothing else in a plain one. -/
inductive Stays : Bool → Value → Prop
  | inverted {value : Value} : value.isTruthy = false → Stays true value
  | plain {value : Value} : value.isTruthy = true →
      value.kind = .boolean ∨ value.kind = .null ∨ value.kind = .missing → Stays false value

/-- **What a plain section puts on top of its frame**: what its name stands for, or each item of
it. -/
inductive Opens : Value → Value → Prop
  | itself {value : Value} : value.isTruthy = true →
      value.kind = .object ∨ value.kind = .string ∨ value.kind = .number → Opens value value
  | item {value item : Value} : value.isTruthy = true → value.kind = .list →
      item ∈ value.listItems?.getD [] → Opens value item

/-- **The body of a section is entered** on both sides, in the frame of the section or in one that
is put on top of it, and left again. -/
structure Entered (good : Value → Prop) (inverted : Bool) (views beside : Views)
    (outside : Session σ → Session τ → Prop)
    (inside : Views → Views → Session σ → Session τ → Prop) : Prop where
  stay {value : Value} {session : Session σ} {other : Session τ} : good value →
    Stays inverted value → outside session other → inside views beside session other
  leave {session after : Session σ} {other later : Session τ} : outside session other →
    inside views beside after later → outside after later
  push {value own : Value} {session : Session σ} {other : Session τ} : inverted = false →
    good value → Opens value own → outside session other →
    inside (views.push own) (beside.push own) { session with memo := [] } { other with memo := [] }
  pop {own : Value} {session after : Session σ} {other later : Session τ} :
    outside session other → inside (views.push own) (beside.push own) after later →
    outside { after with memo := session.memo } { later with memo := other.memo }

/-- Frames of good values are entered and left in any body. -/
theorem Framed.entered {good : Value → Prop}
    {related : Views → Views → Session σ → Session τ → Prop} (framed : Framed good related)
    (inverted : Bool) (views beside : Views) :
    Entered good inverted views beside (related views beside) related where
  stay _ _ together := together
  leave _ after := after
  push _ here opens together := by
    cases opens with
    | itself _ _ => exact framed.push here together
    | item _ _ member => exact framed.push (framed.items here _ member) together
  pop := framed.pop

section Bodies

variable {α β : Type} {good : Value → Prop} {inverted : Bool} {views beside : Views}
  {outside : Session σ → Session τ → Prop}
  {inside : Views → Views → Session σ → Session τ → Prop} {allowed : Fault → Prop}
  {answers : α → β → Prop} {value : Value} {step : Action σ α} {other : Action τ β}

/-- A step in the body of a section, in the frame of the section. -/
theorem Entered.relates_stay (entered : Entered good inverted views beside outside inside)
    (here : good value) (stays : Stays inverted value)
    (relates : Relates (inside views beside) allowed answers step other) :
    Relates outside allowed answers step other := by
  intro session beside together
  obtain ⟨same, after⟩ := relates session beside (entered.stay here stays together)
  exact ⟨same, entered.leave together after⟩

/-- A step in the body of a plain section, in a frame that the section puts on top. -/
theorem Entered.relates_inNewFrame (entered : Entered good false views beside outside inside)
    (here : good value) {own : Value} (opens : Opens value own)
    (relates : Relates (inside (views.push own) (beside.push own)) allowed answers step other) :
    Relates outside allowed answers (inNewFrame step) (inNewFrame other) :=
  Action.relates_inNewFrame relates (fun _ _ together => entered.push rfl here opens together)
    fun _ _ _ _ together after => entered.pop together after

end Bodies

/-- **Which sessions go together** in two renderings, in frames with which views: a frame may be put
on top on both sides, and left again. -/
structure Pairing (σ τ : Type) where
  related : Views → Views → Session σ → Session τ → Prop
  push {views beside : Views} {session : Session σ} {other : Session τ} (view : Value) :
    related views beside session other →
    related (views.push view) (beside.push view) { session with memo := [] }
      { other with memo := [] }
  pop {views beside : Views} {session after : Session σ} {other later : Session τ} {view : Value} :
    related views beside session other →
    related (views.push view) (beside.push view) after later →
    related views beside { after with memo := session.memo } { later with memo := other.memo }

/-- Two steps come to the same in sessions that go together. -/
def Pairing.Agree {α : Type} (pairing : Pairing σ τ) (allowed : Fault → Prop)
    (views beside : Views) (step : Action σ α) (other : Action τ α) : Prop :=
  Relates (pairing.related views beside) allowed Eq step other

/-- A pairing takes any value for a good one. -/
theorem Pairing.framed (pairing : Pairing σ τ) : Framed (fun _ => True) pairing.related where
  push _ := pairing.push _
  pop := pairing.pop
  items _ _ _ := trivial

variable {pairing : Pairing σ τ} {allowed : Fault → Prop}

theorem relates_joinPiecesBy {texts : String → String → Prop} (joins : Joins texts)
    {related : Session σ → Session τ → Prop} {pieces others : List Piece}
    (alike : List.Forall₂ (Piece.Alike texts) pieces others) (may : allowed .wrongType) :
    Relates related allowed texts (joinPieces pieces) (joinPieces others) := by
  have joined := Piece.rel_join? joins alike
  unfold joinPieces
  cases first : Piece.join? pieces with
  | some content =>
    cases second : Piece.join? others with
    | some other =>
      rw [first, second] at joined
      cases joined with
      | some here => exact relates_pure here
    | none =>
      rw [first, second] at joined
      cases joined
  | none =>
    cases second : Piece.join? others with
    | some other =>
      rw [first, second] at joined
      cases joined
    | none => exact relates_throw may

theorem relates_joinPieces {related : Session σ → Session τ → Prop} (pieces : List Piece)
    (may : allowed .wrongType) :
    Relates related allowed Eq (joinPieces pieces) (joinPieces pieces) :=
  relates_joinPiecesBy joins_eq (Piece.forall₂_alike_eq ▸ rfl) may

/-- A result that does not tell of a missing raw body. -/
theorem allowed_of_ne {α : Type} (usual : ∀ fault, fault ≠ .rawBodyMissing → allowed fault)
    {result : Except Fault α} (other : result ≠ .error .rawBodyMissing) :
    ∀ fault, result = .error fault → allowed fault := by
  rintro fault rfl
  refine usual fault fun same => other ?_
  rw [same]

theorem relates_textOf {related : Session σ → Session τ → Prop}
    (usual : ∀ fault, fault ≠ .rawBodyMissing → allowed fault) (value : Value) :
    Relates related allowed Eq (textOf value) (textOf value) := by
  have may := allowed_of_ne usual value.outputText_ne
  unfold textOf
  cases text : value.outputText with
  | ok content => exact relates_pure rfl
  | error fault => exact relates_throw (may fault text)

/-! ### Trees -/

section Trees

variable {search lookout : Frame.Search} {setting : Setting σ} {other : Setting τ}
  {again : Views → String → Action σ String} {anew : Views → String → Action τ String}
  {expansion : Views → Span → Int → Value → Action σ Piece}
  {expander : Views → Span → Int → Value → Action τ Piece} {pair : Token → Token → Prop}
  {related : Views → Views → Session σ → Session τ → Prop}

/-- The text of a body, from the pieces of the body. -/
theorem relates_bodyBy {texts : String → String → Prop} (joins : Joins texts)
    {related : Session σ → Session τ → Prop} {pieces : Action σ (List Piece)}
    {others : Action τ (List Piece)}
    (relates : Relates related allowed (List.Forall₂ (Piece.Alike texts)) pieces others)
    (may : allowed .wrongType) :
    Relates related allowed texts (pieces >>= joinPieces) (others >>= joinPieces) :=
  relates_bind relates fun _ _ alike => relates_joinPiecesBy joins alike may

theorem relates_body {related : Session σ → Session τ → Prop} {pieces : Action σ (List Piece)}
    {others : Action τ (List Piece)} (relates : Relates related allowed Eq pieces others)
    (may : allowed .wrongType) :
    Relates related allowed Eq (pieces >>= joinPieces) (others >>= joinPieces) :=
  relates_bodyBy joins_eq (Piece.forall₂_alike_eq ▸ relates) may

/-- **A block**, from what its name stands for, its body and what becomes of a function, where the
name stands for a good value, whose body is entered, and the texts of the body go together. -/
theorem relates_blockBy {texts : String → String → Prop} (joins : Joins texts)
    {good : Value → Prop} {outside : Session σ → Session τ → Prop} {inverted : Bool}
    {span place : Span} {body inner : List Token} {stop limit : Int} (may : allowed .wrongType)
    {views beside : Views} (entered : Entered good inverted views beside outside related)
    (looked : Relates outside allowed (fun value image => value = image ∧ good value)
      (lookupBy search setting views span.value) (lookupBy lookout other beside place.value))
    (bodies : ∀ views beside,
      Relates (related views beside) allowed (List.Forall₂ (Piece.Alike texts))
        (renderPieces search setting again expansion views body)
        (renderPieces lookout other anew expander beside inner))
    (expands : inverted = false → ∀ value, good value →
      value.kind = .sectionLambda ∨ value.kind = .accessor →
        Relates outside allowed (Piece.Alike texts)
          (expansion views span stop value) (expander beside place limit value)) :
    Relates outside allowed (Piece.Alike texts)
      (renderToken search setting again expansion views (.block inverted span body stop))
      (renderToken lookout other anew expander beside (.block inverted place inner limit)) := by
  have whole := fun views beside => relates_bodyBy joins (bodies views beside) may
  have pieces : ∀ views beside, Relates (related views beside) allowed (Piece.Alike texts)
      (do let pieces ← renderPieces search setting again expansion views body
          Piece.text <$> joinPieces pieces)
      (do let pieces ← renderPieces lookout other anew expander beside inner
          Piece.text <$> joinPieces pieces) := fun views beside =>
    relates_bind (bodies views beside) fun _ _ alike =>
      relates_map (relates_joinPiecesBy joins alike may) fun _ _ here => .text here
  cases inverted with
  | true =>
    unfold renderToken
    refine relates_bind looked fun value _ ⟨same, here⟩ => ?_
    subst same
    exact relates_ite (fun _ => relates_pure .nothing) fun falsy =>
      entered.relates_stay here (.inverted (eq_false_of_ne_true falsy)) (pieces views beside)
  | false =>
    unfold renderToken
    refine relates_bind looked fun value _ ⟨same, here⟩ => ?_
    subst same
    refine relates_ite (fun _ => relates_pure .nothing) fun counts => ?_
    have truthy : value.isTruthy = true := by simpa using counts
    have itself := fun kind => entered.relates_inNewFrame here (.itself truthy kind)
      (pieces (views.push value) (beside.push value))
    have stays := fun kind => entered.relates_stay here (.plain truthy kind) (pieces views beside)
    cases kind : value.kind with
    | list =>
      refine relates_bind (relates_mapM fun item member => entered.relates_inNewFrame here
        (.item truthy kind member) (whole (views.push item) (beside.push item)))
        fun parts others alike => ?_
      exact relates_pure (.text (joins.join alike))
    | sectionLambda => exact expands rfl value here (.inl kind)
    | accessor => exact expands rfl value here (.inr kind)
    | object => exact itself (.inl kind)
    | string => exact itself (.inr (.inl kind))
    | number => exact itself (.inr (.inr kind))
    | boolean => exact stays (.inl kind)
    | null => exact stays (.inr (.inl kind))
    | missing => exact stays (.inr (.inr kind))

/-- **A block**, from what its name stands for, its body and what becomes of a function, where the
name stands for a good value. -/
theorem relates_blockOf {good : Value → Prop} (framed : Framed good related) {inverted : Bool}
    {span place : Span} {body inner : List Token} {stop limit : Int} (may : allowed .wrongType)
    {views beside : Views}
    (looked : Relates (related views beside) allowed (fun value image => value = image ∧ good value)
      (lookupBy search setting views span.value) (lookupBy lookout other beside place.value))
    (bodies : ∀ views beside, Relates (related views beside) allowed Eq
      (renderPieces search setting again expansion views body)
      (renderPieces lookout other anew expander beside inner))
    (expands : inverted = false → ∀ value, good value →
      value.kind = .sectionLambda ∨ value.kind = .accessor →
        Relates (related views beside) allowed Eq (expansion views span stop value)
          (expander beside place limit value)) :
    Relates (related views beside) allowed Eq
      (renderToken search setting again expansion views (.block inverted span body stop))
      (renderToken lookout other anew expander beside (.block inverted place inner limit)) := by
  have by_eq := @relates_blockBy σ τ allowed search lookout setting other again anew expansion
    expander related Eq joins_eq good (related views beside) inverted span place body inner stop
    limit may views beside (framed.entered inverted views beside) looked
  rw [Piece.forall₂_alike_eq, Piece.alike_eq] at by_eq
  exact by_eq bodies expands

/-- **A block**, from what its name stands for, its body and what becomes of a function. -/
theorem relates_block {inverted : Bool} {span place : Span} {body inner : List Token}
    {stop limit : Int} (may : allowed .wrongType) {views beside : Views}
    (looked : pairing.Agree allowed views beside (lookupBy search setting views span.value)
      (lookupBy lookout other beside place.value))
    (bodies : ∀ views beside, pairing.Agree allowed views beside
      (renderPieces search setting again expansion views body)
      (renderPieces lookout other anew expander beside inner))
    (expands : inverted = false → ∀ value, pairing.Agree allowed views beside
      (expansion views span stop value) (expander beside place limit value)) :
    pairing.Agree allowed views beside
      (renderToken search setting again expansion views (.block inverted span body stop))
      (renderToken lookout other anew expander beside (.block inverted place inner limit)) := by
  refine relates_blockOf pairing.framed may (fun session other together => ?_) bodies
    fun plain value _ _ => expands plain value
  obtain ⟨same, after⟩ := looked session other together
  exact ⟨same.mono fun equal => ⟨equal, trivial⟩, after⟩

section By

variable {texts : String → String → Prop}
  {within : List Token → Views → Views → Session σ → Session τ → Prop}
  (interpolations : ∀ siblings escaped span place, .interpolation escaped span ∈ siblings →
    pair (.interpolation escaped span) (.interpolation escaped place) → ∀ views beside,
      Relates (within siblings views beside) allowed (Piece.Alike texts)
        (renderToken search setting again expansion views (.interpolation escaped span))
        (renderToken lookout other anew expander beside (.interpolation escaped place)))
  (blocks : ∀ siblings inverted span body stop place inner limit,
    .block inverted span body stop ∈ siblings →
    pair (.block inverted span body stop) (.block inverted place inner limit) →
    (∀ views beside, Relates (within body views beside) allowed (List.Forall₂ (Piece.Alike texts))
      (renderPieces search setting again expansion views body)
      (renderPieces lookout other anew expander beside inner)) → ∀ views beside,
      Relates (within siblings views beside) allowed (Piece.Alike texts)
        (renderToken search setting again expansion views (.block inverted span body stop))
        (renderToken lookout other anew expander beside (.block inverted place inner limit)))
  (partials : ∀ siblings span host place line, .partialTag span host ∈ siblings →
    pair (.partialTag span host) (.partialTag place line) → ∀ views beside,
      Relates (within siblings views beside) allowed (Piece.Alike texts)
        (renderToken search setting again expansion views (.partialTag span host))
        (renderToken lookout other anew expander beside (.partialTag place line)))

include interpolations blocks partials

mutual

/-- One token of a level beside one that is like it. -/
theorem relates_tokenBy : {token another : Token} → Token.AlikeBy texts pair token another →
    {siblings : List Token} → token ∈ siblings → (views beside : Views) →
    Relates (within siblings views beside) allowed (Piece.Alike texts)
      (renderToken search setting again expansion views token)
      (renderToken lookout other anew expander beside another)
  | _, _, .text here, _, _, _, _ => by
    unfold renderToken
    exact relates_pure (.text here)
  | _, _, .interpolation here, _, member, views, beside =>
    interpolations _ _ _ _ member here views beside
  | _, _, .block here inside, _, member, views, beside =>
    blocks _ _ _ _ _ _ _ _ member here (relates_piecesBy inside fun _ within => within) views
      beside
  | _, _, .partialTag here, _, member, views, beside =>
    partials _ _ _ _ _ member here views beside
  | _, _, .close, _, _, _, _ => by
    unfold renderToken
    exact relates_pure .nothing
  | _, _, .comment, _, _, _, _ => by
    unfold renderToken
    exact relates_pure .nothing
  | _, _, .delimiters, _, _, _, _ => by
    unfold renderToken
    exact relates_pure .nothing

/-- **The pieces of a level of a tree** beside those of one that is like it, up to its texts. -/
theorem relates_piecesBy : {tokens others : List Token} →
    Token.AllAlikeBy texts pair tokens others → {siblings : List Token} →
    (∀ token ∈ tokens, token ∈ siblings) → (views beside : Views) →
    Relates (within siblings views beside) allowed (List.Forall₂ (Piece.Alike texts))
      (renderPieces search setting again expansion views tokens)
      (renderPieces lookout other anew expander beside others)
  | _, _, .nil, _, _, _, _ => by
    unfold renderPieces
    exact relates_pure .nil
  | _, _, .cons here later, _, among, views, beside => by
    unfold renderPieces
    refine relates_bind (relates_tokenBy here (among _ List.mem_cons_self) views beside)
      fun piece image alike => ?_
    have rest := relates_piecesBy later (fun token member => among token
      (List.mem_cons_of_mem _ member)) views beside
    exact relates_bind rest fun pieces images both => relates_pure (.cons alike both)

end

end By

/-- **The pieces of a tree** beside those of one that is like it. -/
theorem relates_renderPieces
    (interpolations : ∀ escaped span place,
      pair (.interpolation escaped span) (.interpolation escaped place) → ∀ views beside,
        Relates (related views beside) allowed Eq
          (renderToken search setting again expansion views (.interpolation escaped span))
          (renderToken lookout other anew expander beside (.interpolation escaped place)))
    (blocks : ∀ inverted span body stop place inner limit,
      pair (.block inverted span body stop) (.block inverted place inner limit) →
      (∀ views beside, Relates (related views beside) allowed Eq
        (renderPieces search setting again expansion views body)
        (renderPieces lookout other anew expander beside inner)) → ∀ views beside,
        Relates (related views beside) allowed Eq
          (renderToken search setting again expansion views (.block inverted span body stop))
          (renderToken lookout other anew expander beside (.block inverted place inner limit)))
    (partials : ∀ span host place line,
      pair (.partialTag span host) (.partialTag place line) → ∀ views beside,
        Relates (related views beside) allowed Eq
          (renderToken search setting again expansion views (.partialTag span host))
          (renderToken lookout other anew expander beside (.partialTag place line)))
    {tokens others : List Token} (alike : Token.AllAlike pair tokens others)
    (views beside : Views) : Relates (related views beside) allowed Eq
      (renderPieces search setting again expansion views tokens)
      (renderPieces lookout other anew expander beside others) := by
  have by_eq := @relates_piecesBy σ τ allowed search lookout setting other again anew expansion
    expander pair Eq fun _ => related
  rw [Piece.forall₂_alike_eq, Piece.alike_eq] at by_eq
  exact by_eq (fun _ escaped span place _ => interpolations escaped span place)
    (fun _ inverted span body stop place inner limit _ =>
      blocks inverted span body stop place inner limit)
    (fun _ span host place line _ => partials span host place line) alike (fun _ inside => inside)
    views beside

end Trees

/-! ### Values -/

section Alike

variable {hosts : σ → τ → Prop} {related : Session σ → Session τ → Prop}
  (coupling : Session.Coupling hosts related)
  (usual : ∀ fault, fault ≠ .rawBodyMissing → allowed fault)
  {setting : Setting σ} {other : Setting τ} (alike : setting.Alike hosts allowed other)

include alike in
theorem hostsAgree_settle (view raw : Value) :
    HostsAgree hosts allowed Eq (Frame.settle setting.host view raw)
      (Frame.settle other.host view raw) := by
  have known : ∀ value : Value,
      HostsAgree hosts allowed Eq (fun state => (.ok value, state))
        fun state => (.ok value, state) :=
    fun _ _ _ together => ⟨.ok rfl, together⟩
  cases raw with
  | accessor function => exact alike.call function [view]
  | function function => exact alike.call function []
  | method receiver name => exact alike.send receiver name
  | _ => exact known _

include usual alike in
/-- A name that is looked up fails with what an attribute or an item reports, or with what may come
up in any case. -/
theorem allowed_lookup (view : Value) (outer : List Value) (memo : Memo) (name : String) :
    ∀ fault, (Frame.lookup setting.host.access view outer memo name).1 = .error fault →
      allowed fault := by
  intro fault failed
  rcases Frame.raises_or_of_lookup failed with raises | other
  · exact alike.reads raises
  · exact usual fault other

/-- A name looked up: it is searched for, and the raw value is settled. -/
theorem outcome_lookupBy (search : Frame.Search) (setting : Setting σ) (views : Views)
    (name : String) (session : Session σ) :
    (lookupBy search setting views name).outcome session =
      match search views.view views.outer session.memo name with
      | (.error fault, memo) => (.error fault, { session with memo := memo })
      | (.ok raw, memo) =>
        ((Frame.settle setting.host views.view raw session.host).1, { session with
          memo := memo, host := (Frame.settle setting.host views.view raw session.host).2 }) := by
  unfold lookupBy
  rw [outcome_bind]
  unfold outcome ofStep
  simp only
  rcases search views.view views.outer session.memo name with ⟨fault | raw, memo⟩
  · rfl
  · rfl

include coupling usual alike in
/-- **A name looked up** in sessions with the same memory. -/
theorem relates_lookup (memory : ∀ {session beside}, related session beside →
      session.memo = beside.memo)
    (withMemo : ∀ {session beside} memo, related session beside →
      related { session with memo := memo } { beside with memo := memo })
    (views : Views) (name : String) :
    Relates related allowed Eq (lookup setting views name) (lookup other views name) := by
  intro session beside together
  have may := allowed_lookup usual alike views.view views.outer session.memo name
  unfold lookup Setting.search
  rw [outcome_lookupBy, outcome_lookupBy, ← memory together, ← alike.access]
  rcases found : Frame.lookup setting.host.access views.view views.outer session.memo name with
    ⟨fault | raw, memo⟩
  · exact ⟨.error (may fault (by rw [found])), withMemo memo together⟩
  · obtain ⟨same, after⟩ := hostsAgree_settle alike views.view raw session.host beside.host
      (coupling.states together)
    exact ⟨same, coupling.withHost after (withMemo memo together)⟩

include usual alike in
theorem relates_renderVariable (escaped : Bool) (value : Value) :
    Relates related allowed Eq (renderVariable setting escaped value)
      (renderVariable other escaped value) := by
  unfold renderVariable
  refine relates_ite (fun _ => relates_pure rfl) fun _ => ?_
  refine relates_bind (relates_textOf usual value) fun content _ same => ?_
  subst same
  refine relates_ite (fun _ => relates_pure rfl) fun _ => ?_
  rw [← alike.escape]
  cases own : setting.escape with
  | standard => exact relates_pure rfl
  | custom name answer =>
    exact relates_map (relates_ofExcept fun _ failed => alike.escapes own failed)
      fun _ _ equal => congrArg _ equal

include usual alike in
/-- **A variable in a tag**, from what its name stands for. -/
theorem relates_interpolation {search lookout : Frame.Search}
    {again : Views → String → Action σ String} {anew : Views → String → Action τ String}
    {expansion : Views → Span → Int → Value → Action σ Piece}
    {expander : Views → Span → Int → Value → Action τ Piece} (escaped : Bool) {span place : Span}
    {views beside : Views} {answers : Value → Value → Prop}
    (looked : Relates related allowed answers (lookupBy search setting views span.value)
      (lookupBy lookout other beside place.value))
    (equal : ∀ value image, answers value image → value = image) :
    Relates related allowed Eq
      (renderToken search setting again expansion views (.interpolation escaped span))
      (renderToken lookout other anew expander beside (.interpolation escaped place)) := by
  unfold renderToken
  refine relates_bind looked fun value image answered => ?_
  rw [equal value image answered]
  exact relates_renderVariable usual alike escaped image

/-! ### Functions of sections -/

include coupling in
/-- **The run of a function** beside one that is alike, whose renderings go side by side. -/
theorem relates_runScript {again : String → Action σ String} {anew : String → Action τ String}
    (renders : ∀ text, Relates related allowed Eq (again text) (anew text)) {script : Script σ}
    {beside : Script τ} (runs : script.Alike hosts allowed beside) :
    Relates related allowed Eq (runScript again script) (runScript anew beside) := by
  induction runs with
  | answer here => exact relates_leaveHost coupling _ here
  | fail here may => exact relates_withHost coupling fun _ _ _ => ⟨.error may, here⟩
  | render here _ hypothesis =>
    unfold runScript
    refine relates_bind (relates_leaveHost coupling () here) fun _ _ _ => ?_
    refine relates_bind (relates_attempt (renders _)) fun result _ ⟨same, may⟩ => ?_
    subst same
    refine relates_bind (relates_readHost coupling) fun after later together => ?_
    exact hypothesis result after later may together

include coupling usual in
/-- The function of a section is run from states of the hosts. -/
theorem relates_expandFrom {again : String → Action σ String} {anew : String → Action τ String}
    (renders : ∀ text, Relates related allowed Eq (again text) (anew text)) {value : Value}
    {body : String} {host : σ} {beside : τ}
    (begins : ∀ function, bodyFunction? value = some function →
      (setting.host.begin function body host).Alike hosts allowed
        (other.host.begin function body beside)) :
    Relates related allowed Eq (expandFrom setting again value body host)
      (expandFrom other anew value body beside) := by
  unfold expandFrom
  cases called : bodyFunction? value with
  | none => exact relates_throw (usual .wrongType nofun)
  | some function => exact relates_runScript coupling renders (begins function called)

include usual in
theorem relates_renderAnswer (answer : Value) :
    Relates related allowed Eq (renderAnswer answer) (renderAnswer answer) := by
  cases answer with
  | null => exact relates_pure rfl
  | _ => exact relates_map (relates_textOf usual _) fun _ _ same => congrArg _ same

include coupling usual in
/-- **A section whose value is a function**, where it is given the same raw body. -/
theorem relates_renderExpansion {again : Views → String → Action σ String}
    {anew : Views → String → Action τ String} {views beside : Views}
    (renders : ∀ text, Relates related allowed Eq (again views text) (anew beside text))
    (begins : ∀ function body host beside, hosts host beside →
      (setting.host.begin function body host).Alike hosts allowed
        (other.host.begin function body beside))
    {text another : String} {span place : Span} {stop limit : Int} (value : Value)
    (bodies : rawBody text span.stop stop = rawBody another place.stop limit) :
    Relates related allowed Eq
      (renderExpansion setting again (some text) views span stop value)
      (renderExpansion other anew (some another) beside place limit value) := by
  have expands : ∀ body, Relates related allowed Eq (expand setting (again views) value body)
      (expand other (anew beside) value body) := fun body =>
    relates_bind (relates_readHost coupling) fun host later together =>
      relates_expandFrom coupling usual renders fun function _ => begins function _ _ _ together
  unfold renderExpansion
  simp only
  rw [← bodies]
  refine relates_bind (expands _) fun answer _ same => ?_
  subst same
  exact relates_renderAnswer usual answer

/-- A section whose value can be called, but is neither a function nor a higher-order section, comes
to a fault. -/
theorem outcome_renderExpansion_none {setting : Setting σ}
    {again : Views → String → Action σ String} {text : String} {views : Views} {span : Span}
    {stop : Int} {value : Value}
    (none : bodyFunction? value = none) (session : Session σ) :
    (renderExpansion setting again (some text) views span stop value).outcome session =
      (.error .wrongType, session) := by
  unfold renderExpansion expand expandFrom
  rw [none]
  rfl

/-! ### Partials -/

include coupling usual alike in
theorem relates_findPartial (name : String) :
    Relates related allowed Eq (findPartial setting name) (findPartial other name) := by
  -- what is done with a text or none, once it is known
  have noted : ∀ found another : Option String, found = another → Relates related allowed Eq
      (if found.isNone then do
          let _ ← note (.partialMissing name)
          pure found
        else pure found)
      (if another.isNone then do
          let _ ← note (.partialMissing name)
          pure another
        else pure another) := by
    rintro found _ rfl
    refine relates_ite (fun _ => ?_) fun _ => relates_pure rfl
    exact relates_bind (relates_note coupling _) fun _ _ _ => relates_pure rfl
  have known : ∀ found : Option String, Relates related allowed Eq (pure found) (pure found) :=
    fun _ => relates_pure rfl
  have tags := alike.tags
  have partials := alike.partials
  obtain ⟨_, _, choice, _⟩ := setting
  obtain ⟨_, _, _, _⟩ := other
  simp only at tags partials
  subst tags
  unfold findPartial
  cases partials with
  | absent => exact relates_bind (known none) noted
  | table entries =>
    refine relates_bind (relates_ofExcept (allowed_of_ne usual
      (Partials.inTable?_ne entries choice name))) fun entry _ same => ?_
    subst same
    cases entry with
    | none => exact relates_bind (known none) noted
    | some value =>
      cases value with
      | text content => exact relates_bind (known (some content)) noted
      | null => exact relates_bind (known none) noted
      | _ =>
        refine relates_ite (fun _ => ?_) fun _ => relates_bind (known (some "")) noted
        exact relates_bind (relates_throw (usual .wrongType nofun)) noted
  | @lookup ask another replies =>
    refine relates_bind (fun session beside together => ?_) noted
    obtain ⟨same, notes, after⟩ :=
      replies name session.host beside.host (coupling.states together)
    refine ⟨same, ?_⟩
    show related { session with
        host := (ask name session.host).state
        notes := (ask name session.host).notes.reverse ++ session.notes }
      { beside with
        host := (another name beside.host).state
        notes := (another name beside.host).notes.reverse ++ beside.notes }
    rw [← notes]
    exact coupling.withNotes _ (coupling.withHost after together)

include coupling usual alike in
theorem relates_renderPartial {again : String → Action σ String} {anew : String → Action τ String}
    (renders : ∀ text, Relates related allowed Eq (again text) (anew text)) (name : String)
    (host : HostLine) :
    Relates related allowed Eq (renderPartial setting again name host)
      (renderPartial other anew name host) := by
  have some : hasPartials setting = hasPartials other := by
    have partials := alike.partials
    obtain ⟨_, _, _, _⟩ := setting
    obtain ⟨_, _, _, _⟩ := other
    cases partials <;> rfl
  unfold renderPartial
  rw [← some]
  refine relates_ite (fun _ => ?_) fun _ => relates_pure rfl
  refine relates_bind (relates_findPartial coupling usual alike name) fun found _ same => ?_
  subst same
  cases found with
  | none => exact relates_pure rfl
  | some text => exact relates_map (renders _) fun _ _ equal => congrArg _ equal

end Alike

/-! ### Whole renderings -/

/-- **A template rendered with delimiters that are known**: it is parsed, and its tree is
rendered. -/
theorem renderText_succ {setting : Setting σ} {delimiters : Delimiters}
    (resolved : setting.tags.resolve = .ok delimiters) (depth : Nat) (views : Views)
    (text : String) :
    renderText setting (depth + 1) views text = (do
      let tree ← Action.parse delimiters text
      renderLevel (renderExpansion setting) setting (renderText setting depth) (some text) views
        tree.tokens) := by
  have known : (Render.delimiters setting : Action σ Delimiters) = pure delimiters := by
    unfold Render.delimiters
    rw [resolved]
  show (do
    let delimiters ← Render.delimiters setting
    let tree ← Action.parse delimiters text
    renderLevel (renderExpansion setting) setting (renderText setting depth) (some text) views
      tree.tokens : Action σ String) = _
  rw [known, pure_bind]

/-- Without delimiters nothing is rendered. -/
theorem renderText_unresolved {setting : Setting σ} {fault : SyntaxFault}
    (unresolved : setting.tags.resolve = .error fault) (depth : Nat) (views : Views)
    (text : String) : renderText setting (depth + 1) views text = throw (.syntaxFault fault) := by
  have known : (Render.delimiters setting : Action σ Delimiters) = throw (.syntaxFault fault) := by
    unfold Render.delimiters
    rw [unresolved]
  show Render.delimiters setting >>= _ = _
  rw [known]
  rfl

section Whole

variable {pairing : Pairing σ τ} {hosts : σ → τ → Prop}
  (coupled : ∀ views beside, Session.Coupling hosts (pairing.related views beside))
  (usual : ∀ fault, fault ≠ .rawBodyMissing → allowed fault)
  {setting : Setting σ} {other : Setting τ} (alike : setting.Alike hosts allowed other)
  {search lookout : Frame.Search}
  (looks : ∀ views beside name, pairing.Agree allowed views beside
    (lookupBy search setting views name) (lookupBy lookout other beside name))

include coupled usual alike looks

/-- **A tree rendered in two ways**, provided that the functions of its sections come to the same.
-/
theorem relates_renderLevelWith {again : Views → String → Action σ String}
    {anew : Views → String → Action τ String}
    (renders : ∀ views beside text,
      pairing.Agree allowed views beside (again views text) (anew beside text))
    {expansion : Expansion σ} {expander : Expansion τ} {template : Option String}
    {tokens : List Token}
    (expands : ∀ siblings span body stop, Token.Level tokens siblings →
      .block false span body stop ∈ siblings → ∀ views beside value,
        pairing.Agree allowed views beside (expansion again template views span stop value)
          (expander anew template beside span stop value)) (views beside : Views) :
    pairing.Agree allowed views beside
      (renderLevelWith search expansion setting again template views tokens)
      (renderLevelWith lookout expander other anew template beside tokens) := by
  have themselves : Token.AllAlike (fun token image => token = image ∧
      ∃ siblings, Token.Level tokens siblings ∧ token ∈ siblings) tokens tokens :=
    Token.allAlike_of_level (fun siblings token level member => ⟨rfl, siblings, level, member⟩)
      tokens .root fun _ inside => inside
  have may : allowed .wrongType := usual .wrongType nofun
  refine relates_body (relates_renderPieces ?_ ?_ ?_ themselves views beside) may
  · rintro escaped span _ ⟨⟨⟩, _⟩ views beside
    exact relates_interpolation usual alike escaped (looks views beside span.value) fun _ _ => id
  · rintro inverted span body stop _ _ _ ⟨⟨⟩, siblings, level, member⟩ bodies views beside
    refine relates_block may (looks views beside span.value) bodies fun plain value => ?_
    subst plain
    exact expands siblings span body stop level member views beside value
  · rintro span host _ _ ⟨⟨⟩, _⟩ views beside
    unfold renderToken
    exact relates_renderPartial (coupled views beside) usual alike (renders views beside)
      span.value host

/-- **A whole rendering in two ways**, with partials and callbacks, provided that the functions of
the sections in each tree that comes up come to the same. -/
theorem relates_renderTextWith {known : Delimiters → String → List Token → Prop}
    (parses : ∀ views beside, ParsesAlike (pairing.related views beside) allowed known)
    {expansion : Expansion σ} {expander : Expansion τ}
    (expands : ∀ again anew, (∀ views beside text,
        pairing.Agree allowed views beside (again views text) (anew beside text)) →
      ∀ delimiters text tree, setting.tags.resolve = .ok delimiters →
        known delimiters text tree → ∀ siblings span body stop, Token.Level tree siblings →
        .block false span body stop ∈ siblings → ∀ views beside value,
          pairing.Agree allowed views beside (expansion again (some text) views span stop value)
            (expander anew (some text) beside span stop value))
    (depth : Nat) (views beside : Views) (text : String) :
    pairing.Agree allowed views beside
      (renderTextWith search expansion setting depth views text)
      (renderTextWith lookout expander other depth beside text) := by
  induction depth generalizing views beside text with
  | zero => exact relates_throw (usual .tooDeep nofun)
  | succ depth hypothesis =>
    have resolved : Relates (pairing.related views beside) allowed
        (fun delimiters image => delimiters = image ∧ setting.tags.resolve = .ok delimiters)
        (delimiters setting) (delimiters other) := by
      unfold delimiters
      rw [← alike.tags]
      cases setting.tags.resolve with
      | ok delimiters => exact relates_pure ⟨rfl, rfl⟩
      | error fault => exact relates_throw (usual _ nofun)
    refine relates_bind resolved fun delimiters _ ⟨same, found⟩ => ?_
    subst same
    refine relates_bind (parses views beside delimiters text) fun tree image ⟨same, tells⟩ => ?_
    rw [← same]
    exact relates_renderLevelWith coupled usual alike looks hypothesis
      (expands _ _ hypothesis delimiters text tree.tokens found tells) views beside

end Whole

section Same

variable {pairing : Pairing σ σ}
  (coupled : ∀ views beside, Session.Coupling Eq (pairing.related views beside))
  (free : ∀ fault, allowed fault) {setting : Setting σ} {search lookout : Frame.Search}
  (looks : ∀ views beside name, pairing.Agree allowed views beside
    (lookupBy search setting views name) (lookupBy lookout setting beside name))

include coupled free

/-- A section whose value is a function, with the same text to cut the raw body out of. -/
theorem agree_renderExpansion {again anew : Views → String → Action σ String}
    (renders : ∀ views beside text,
      pairing.Agree allowed views beside (again views text) (anew beside text))
    (template : Option String) (views beside : Views) (span : Span) (stop : Int) (value : Value) :
    pairing.Agree allowed views beside
      (renderExpansion setting again template views span stop value)
      (renderExpansion setting anew template beside span stop value) := by
  cases template with
  | none => exact relates_throw (free _)
  | some text =>
    refine relates_renderExpansion (coupled views beside) (fun fault _ => free fault)
      (renders views beside) (fun function body host _ same => ?_) value rfl
    subst same
    exact Script.alike_refl free _

include looks

/-- A tree rendered with one setting, where names are found in two ways. -/
theorem agree_renderLevelWith {again anew : Views → String → Action σ String}
    (renders : ∀ views beside text,
      pairing.Agree allowed views beside (again views text) (anew beside text))
    (template : Option String) (tokens : List Token) (views beside : Views) :
    pairing.Agree allowed views beside
      (renderLevelWith search (renderExpansion setting) setting again template views tokens)
      (renderLevelWith lookout (renderExpansion setting) setting anew template beside tokens) :=
  relates_renderLevelWith coupled (fun fault _ => free fault) (setting.alike_refl free) looks
    renders (fun _ span _ stop _ _ views beside value =>
      agree_renderExpansion coupled free renders template views beside span stop value) views beside

/-- **A whole rendering with one setting**, where names are found in two ways. -/
theorem agree_renderTextWith {known : Delimiters → String → List Token → Prop}
    (parses : ∀ views beside, ParsesAlike (pairing.related views beside) allowed known)
    (depth : Nat) (views beside : Views) (text : String) :
    pairing.Agree allowed views beside
      (renderTextWith search (renderExpansion setting) setting depth views text)
      (renderTextWith lookout (renderExpansion setting) setting depth beside text) :=
  relates_renderTextWith coupled (fun fault _ => free fault) (setting.alike_refl free) looks parses
    (fun _ _ renders _ text _ _ _ _ span _ stop _ _ views beside value =>
      agree_renderExpansion coupled free renders (some text) views beside span stop value)
    depth views beside text

end Same

end Render

end Mustache
