import Mustache.Proofs.Ensuring
import Mustache.Proofs.JoinedTrees
import Mustache.Proofs.RenderedBody

/-!
**Renderings of templates put together.**

A template that ends with a line feed is rendered as it is before another one, and so is the one
behind it: together they come to what they come to one after the other. The texts of a template are
put together at its very end only. An escape that answers what cannot be written fails there, which
is too late for the template behind it not to be rendered.

* `Render.renderInTurn`: two templates one after the other.
* `renderPieces_seam`, `agree_joined`: the pieces of two trees put together.
* `Escape.Textual`, `Render.ensures_written`: an escape all of whose answers can be written.
* `outcome_joined`: **the main statement.**
* `not_joined_len`: an escape whose answers cannot be written.
-/

namespace Mustache

variable {σ : Type}

theorem Piece.join?_append (first second : List Piece) :
    join? (first ++ second) =
      (join? first).bind fun content => (join? second).map (content ++ ·) := by
  induction first with
  | nil =>
    rw [List.nil_append, join?, Option.bind_some]
    simp only [String.empty_append, Option.map_id']
  | cons piece rest hypothesis =>
    rw [List.cons_append]
    cases piece with
    | text content =>
      rw [join?, join?, hypothesis, Option.map_bind, Option.bind_map]
      simp only [Function.comp_def, Option.map_map, String.append_assoc]
    | nothing => exact hypothesis
    | notText => rfl

namespace Render

open Mustache.Action

variable {setting : Setting σ}

/-- **Two templates rendered one after the other**, the second from where the first leaves the
session. -/
def renderInTurn (setting : Setting σ) (depth : Nat) (views : Views) (first second : String) :
    Action σ String := do
  let text ← renderText setting depth views first
  let later ← renderText setting depth views second
  pure (text ++ later)

/-! ### Trees -/

section Pieces

variable {search : Frame.Search} {again : Views → String → Action σ String}
  {expansion : Views → Span → Int → Value → Action σ Piece}

theorem renderPieces_cons (views : Views) (token : Token) (rest : List Token) :
    renderPieces search setting again expansion views (token :: rest) =
      (do let piece ← renderToken search setting again expansion views token
          let pieces ← renderPieces search setting again expansion views rest
          pure (piece :: pieces)) := by
  rw [renderPieces]

theorem renderPieces_append (views : Views) (first second : List Token) :
    renderPieces search setting again expansion views (first ++ second) =
      (do let pieces ← renderPieces search setting again expansion views first
          let others ← renderPieces search setting again expansion views second
          pure (pieces ++ others)) := by
  induction first with
  | nil =>
    rw [renderPieces, pure_bind]
    simp only [List.nil_append, bind_pure]
  | cons token rest hypothesis =>
    rw [List.cons_append, renderPieces_cons, renderPieces_cons, hypothesis]
    simp only [bind_assoc, pure_bind, List.cons_append]

theorem renderPieces_text (views : Views) (span : Span) (rest : List Token) :
    renderPieces search setting again expansion views (.text span :: rest) =
      (do let pieces ← renderPieces search setting again expansion views rest
          pure (.text span.value :: pieces)) := by
  rw [renderPieces_cons, renderToken, pure_bind]

/-- **The text of two trees put together** is that of the pieces of both. -/
theorem renderPieces_seam {first second whole : List Token} (seam : Token.Seam first second whole)
    (views : Views) :
    (renderPieces search setting again expansion views whole >>= joinPieces) =
      (do let pieces ← renderPieces search setting again expansion views first
          let others ← renderPieces search setting again expansion views second
          joinPieces (pieces ++ others)) := by
  cases seam with
  | apart => simp only [renderPieces_append, bind_assoc, pure_bind]
  | @joined before after last next =>
    have same : ∀ pieces others : List Piece,
        (joinPieces (pieces ++ .text (last.value ++ next.value) :: others) : Action σ String) =
          joinPieces (pieces ++ [.text last.value] ++ .text next.value :: others) := by
      intro pieces others
      unfold joinPieces
      rw [List.append_assoc, Piece.join?_append, Piece.join?_append]
      simp only [List.cons_append, List.nil_append, Piece.join?, Option.map_map,
        Function.comp_def, String.append_assoc]
    have empty : renderPieces search setting again expansion views [] = pure [] := by
      rw [renderPieces]
    simp only [renderPieces_append, renderPieces_text, empty, bind_assoc, pure_bind,
      Token.joinSpans]
    simp only [same]

end Pieces

/-- Trees that are beside each other in two texts come to the same. -/
theorem agree_beside {text other : String} {body tree : List Token}
    (alike : Token.AllAlike (Token.Beside text other) body tree) (depth : Nat)
    (views beside : Views) :
    cachePairing.Agree (fun _ => True) views beside
      (renderPieces setting.search setting (renderText setting depth)
        (renderExpansion setting (renderText setting depth) (some text)) views body)
      (renderPieces setting.search setting (renderText setting depth)
        (renderExpansion setting (renderText setting depth) (some other)) beside tree) := by
  refine agree_alikeOn (fun _ _ => And.left) (fun span host place line here views beside => ?_)
    alike views beside
  obtain ⟨⟨same, _⟩, lines⟩ := here
  change span.value = place.value at same
  change host = line at lines
  rw [same, lines]
  exact relates_renderPartial (cachePairing_coupling views beside) (fun _ _ => trivial)
    (setting.alike_refl fun _ => trivial) (agree_renderText_beside depth views beside) place.value
    line

/-! ### Templates -/

/-- The pieces of a tree, with the text that raw bodies are cut out of. -/
abbrev piecesOf (setting : Setting σ) (depth : Nat) (views : Views) (text : String)
    (tree : List Token) : Action σ (List Piece) :=
  renderPieces setting.search setting (renderText setting depth)
    (renderExpansion setting (renderText setting depth) (some text)) views tree

section Joined

variable {delimiters : Delimiters} {first second : String} {front later : List Token}
  (resolved : setting.tags.resolve = .ok delimiters)

include resolved

/-- **Two templates put together** come to the pieces of both, put together at the end. -/
theorem agree_joined {early behind whole : List Token}
    (joined : parse delimiters (first ++ second) = .ok whole)
    (seam : Token.Seam early behind whole)
    (left : Token.AllAlike (Token.Beside first (first ++ second)) front early)
    (right : Token.AllAlike (Token.Beside second (first ++ second)) later behind) (depth : Nat)
    (views : Views) :
    cachePairing.Agree (fun _ => True) views views
      (do let pieces ← piecesOf setting depth views first front
          let others ← piecesOf setting depth views second later
          joinPieces (pieces ++ others))
      (renderText setting (depth + 1) views (first ++ second)) := by
  refine agree_renderText_of_level resolved joined ?_
  show cachePairing.Agree _ views views _
    (piecesOf setting depth views (first ++ second) whole >>= joinPieces)
  rw [renderPieces_seam seam]
  refine relates_bind (agree_beside left depth views views) fun pieces _ same => ?_
  subst same
  refine relates_bind (agree_beside right depth views views) fun others _ same => ?_
  subst same
  exact relates_joinPieces _ trivial

/-- A template comes to the pieces of its tree, put together. -/
theorem agree_template (found : parse delimiters first = .ok front) (depth : Nat) (views : Views) :
    cachePairing.Agree (fun _ => True) views views
      (piecesOf setting depth views first front >>= joinPieces)
      (renderText setting (depth + 1) views first) :=
  agree_renderText_of_level resolved found (agree_renderLevel_beside depth (some first) front views)

/-- **Two templates one after the other** come to the pieces of each, put together in turn. -/
theorem agree_inTurn (found : parse delimiters first = .ok front)
    (foundLater : parse delimiters second = .ok later) (depth : Nat) (views : Views) :
    cachePairing.Agree (fun _ => True) views views
      (do let text ← piecesOf setting depth views first front >>= joinPieces
          let other ← piecesOf setting depth views second later >>= joinPieces
          pure (text ++ other))
      (renderInTurn setting (depth + 1) views first second) := by
  refine relates_bind (agree_template resolved found depth views) fun text _ same => ?_
  subst same
  refine relates_bind (agree_template resolved foundLater depth views) fun other _ same => ?_
  subst same
  exact relates_pure rfl

end Joined

/-- What comes behind a step that succeeds. -/
theorem outcome_bind_ok {α β : Type} {step : Action σ α} {session : Session σ} {value : α}
    (reached : (step.outcome session).1 = .ok value) (next : α → Action σ β) :
    (step >>= next).outcome session = (next value).outcome (step.outcome session).2 := by
  rw [outcome_bind]
  generalize step.outcome session = outcome at reached ⊢
  obtain ⟨result, after⟩ := outcome
  cases reached
  rfl

/-- What fails with a fault fails with it whatever comes behind it. -/
theorem outcome_bind_error {α β : Type} {step : Action σ α} {session : Session σ} {fault : Fault}
    (failed : (step.outcome session).1 = .error fault) (next : α → Action σ β) :
    ((step >>= next).outcome session).1 = .error fault := by
  rw [outcome_bind]
  rcases reached : step.outcome session with ⟨cause | value, after⟩
  · rw [reached] at failed
    exact congrArg Except.error (Except.error.inj failed)
  · rw [reached] at failed
    cases failed

theorem outcome_joinPieces (pieces : List Piece) (session : Session σ) :
    (joinPieces pieces : Action σ String).outcome session =
      ((Piece.join? pieces).elim (.error .wrongType) .ok, session) := by
  unfold joinPieces
  cases Piece.join? pieces with
  | none => rfl
  | some content => rfl

/-- **Pieces put together at the end, or in turn**: it comes to the same, unless the first of them
cannot be written, which is found too late for the others not to be rendered. -/
theorem outcome_pieces (first second : Action σ (List Piece)) (session : Session σ) :
    let whole : Action σ String := do
      let pieces ← first
      let others ← second
      joinPieces (pieces ++ others)
    let inTurn : Action σ String := do
      let text ← first >>= joinPieces
      let other ← second >>= joinPieces
      pure (text ++ other)
    whole.outcome session = inTurn.outcome session ∨
      ∃ pieces after, first.outcome session = (.ok pieces, after) ∧ Piece.join? pieces = none ∧
        ∃ fault, (whole.outcome session).1 = .error fault ∧
          (fault = .wrongType ∨ (second.outcome after).1 = .error fault) := by
  intro whole inTurn
  simp only [whole, inTurn, outcome_bind, outcome_joinPieces, Piece.join?_append]
  rcases begun : first.outcome session with ⟨fault | pieces, after⟩
  · exact .inl rfl
  · rcases ended : second.outcome after with ⟨fault | others, last⟩
    · cases text : Piece.join? pieces with
      | none =>
        refine .inr ⟨pieces, after, rfl, text, fault, by simp only [ended], .inr ?_⟩
        rw [ended]
      | some content => exact .inl (by simp only [ended, text, Option.elim])
    · cases text : Piece.join? pieces with
      | none =>
        refine .inr ⟨pieces, after, rfl, text, .wrongType, ?_, .inl rfl⟩
        simp only [ended, text]
        rfl
      | some content =>
        refine .inl ?_
        simp only [ended, text, Option.elim, Option.bind_some]
        cases Piece.join? others with
        | none => rfl
        | some other => rfl

end Render

/-! ### Escapes -/

/-- **An escape all of whose answers can be written.** -/
def Escape.Textual (escape : Escape) : Prop := ∀ text, escape.apply text ≠ .ok .notText

namespace Render

open Mustache.Action

variable {setting : Setting σ}

/-- Pieces that can be written can be put together. -/
theorem join?_ne_none {pieces : List Piece} (written : ∀ piece ∈ pieces, piece ≠ .notText) :
    Piece.join? pieces ≠ none := by
  induction pieces with
  | nil => exact nofun
  | cons piece rest hypothesis =>
    have later := hypothesis fun other member => written other (List.mem_cons_of_mem _ member)
    cases piece with
    | text content =>
      rw [Piece.join?]
      exact mt Option.map_eq_none_iff.mp later
    | nothing => exact later
    | notText => exact absurd rfl (written .notText List.mem_cons_self)

theorem ensures_any {α : Type} (step : Action σ α) :
    Ensures (fun _ => True) (fun _ => True) step :=
  fun _ _ => ⟨trivial, fun _ _ => trivial⟩

theorem ensures_renderVariable (textual : setting.escape.Textual) (escaped : Bool) (value : Value) :
    Ensures (fun _ => True) (· ≠ .notText)
      (renderVariable setting escaped value : Action σ Piece) := by
  unfold renderVariable
  refine ensures_ite (fun _ => ensures_pure nofun) fun _ => ?_
  refine ensures_bind (ensures_any _) fun content _ => ?_
  refine ensures_ite (fun _ => ensures_pure nofun) fun _ => ?_
  cases own : setting.escape with
  | standard => exact ensures_pure nofun
  | custom name answer =>
    have written : ∀ answered, answer content = .ok answered → answered ≠ .notText := by
      rintro answered found rfl
      refine textual content ?_
      rw [own]
      exact found
    refine ensures_map (ensures_ofExcept written) fun answered here => ?_
    cases answered with
    | notText => exact absurd rfl here
    | _ => exact nofun

/-- A text is a piece that can be written. -/
theorem ensures_text (step : Action σ String) :
    Ensures (fun _ => True) (· ≠ .notText) (Piece.text <$> step) :=
  ensures_map (ensures_any step) fun _ _ => nofun

theorem ensures_renderExpansion (again : Views → String → Action σ String)
    (template : Option String) (views : Views) (span : Span) (stop : Int) (value : Value) :
    Ensures (fun _ => True) (· ≠ .notText)
      (renderExpansion setting again template views span stop value) := by
  cases template with
  | none => exact ensures_throw _
  | some text =>
    refine ensures_bind (ensures_any _) fun answer _ => ?_
    cases answer with
    | null => exact ensures_pure nofun
    | _ => exact ensures_text _

theorem ensures_renderPartial (render : String → Action σ String) (name : String)
    (host : HostLine) :
    Ensures (fun _ => True) (· ≠ .notText) (renderPartial setting render name host) := by
  unfold renderPartial
  refine ensures_ite (fun _ => ?_) fun _ => ensures_pure nofun
  refine ensures_bind (ensures_any _) fun found _ => ?_
  cases found with
  | none => exact ensures_pure nofun
  | some text => exact ensures_text _

/-- **Only a variable can come to what cannot be written**, and not with such an escape. -/
theorem ensures_renderToken (textual : setting.escape.Textual)
    (again : Views → String → Action σ String) (template : Option String) (views : Views)
    (token : Token) :
    Ensures (fun _ => True) (· ≠ .notText)
      (renderToken setting.search setting again (renderExpansion setting again template) views
        token) := by
  have body : ∀ pieces : Action σ (List Piece), Ensures (fun _ => True) (· ≠ .notText)
      (do let found ← pieces
          Piece.text <$> joinPieces found) := fun pieces =>
    ensures_bind (ensures_any _) fun found _ => ensures_text _
  cases token with
  | text span => exact ensures_pure nofun
  | interpolation escaped span =>
    unfold renderToken
    exact ensures_bind (ensures_any _) fun value _ => ensures_renderVariable textual escaped value
  | block inverted span tokens stop =>
    cases inverted with
    | true =>
      unfold renderToken
      refine ensures_bind (ensures_any _) fun value _ => ?_
      exact ensures_ite (fun _ => ensures_pure nofun) fun _ => body _
    | false =>
      unfold renderToken
      refine ensures_bind (ensures_any _) fun value _ => ?_
      refine ensures_ite (fun _ => ensures_pure nofun) fun _ => ?_
      have framed : ∀ pieces : Action σ (List Piece), Ensures (fun _ => True) (· ≠ .notText)
          (inNewFrame do
            let found ← pieces
            Piece.text <$> joinPieces found) := fun pieces =>
        ensures_inNewFrame (body pieces) (fun _ _ => trivial) fun _ _ _ _ => trivial
      cases value.kind with
      | list => exact ensures_bind (ensures_any _) fun parts _ => ensures_pure nofun
      | sectionLambda => exact ensures_renderExpansion again template views span stop value
      | accessor => exact ensures_renderExpansion again template views span stop value
      | object => exact framed _
      | string => exact framed _
      | number => exact framed _
      | boolean => exact body _
      | null => exact body _
      | missing => exact body _
  | partialTag span host =>
    unfold renderToken
    exact ensures_renderPartial _ span.value host
  | _ => exact ensures_pure nofun

theorem ensures_written (textual : setting.escape.Textual)
    (again : Views → String → Action σ String) (template : Option String) (views : Views)
    (tokens : List Token) :
    Ensures (fun _ => True) (fun pieces => Piece.join? pieces ≠ none)
      (renderPieces setting.search setting again (renderExpansion setting again template) views
        tokens) := by
  suffices written : Ensures (fun _ => True) (fun pieces => ∀ piece ∈ pieces, piece ≠ .notText)
      (renderPieces setting.search setting again (renderExpansion setting again template) views
        tokens) from written.mono fun _ => join?_ne_none
  induction tokens with
  | nil =>
    rw [renderPieces]
    exact ensures_pure (List.forall_mem_nil _)
  | cons token rest hypothesis =>
    rw [renderPieces_cons]
    refine ensures_bind (ensures_renderToken textual again template views token)
      fun piece here => ?_
    refine ensures_bind hypothesis fun pieces there => ?_
    exact ensures_pure (List.forall_mem_cons.mpr ⟨here, there⟩)

/-! ### The main statement -/

/-- A section whose value is a function, on a line. -/
def firstTemplate : String := "\x7b\x7b#f\x7d\x7da\x7b\x7bx\x7d\x7d\x7b\x7b/f\x7d\x7d\n"

/-- A partial with a blank before it, alone on its line, and a variable behind it. -/
def secondTemplate : String := " \x7b\x7b>p\x7d\x7d\n\x7b\x7bx\x7d\x7d"

/-- What is set for a function that has its body rendered, and a partial. -/
def joinedSetting : Setting Counts :=
  { renderedSetting with partials := .table [("p", .text "<\x7b\x7bx\x7d\x7d>\n")] }

/-- What is set for an escape whose answers are no texts, and a function that fails. -/
def lengthSetting : Setting Counts :=
  { host := Recipe.host #[.raise "boom"], partials := .absent, tags := .checked .standard,
    escape := .custom "len" fun _ => .ok .notText }

/-- The fault of a step, if it fails. -/
def fault? {α : Type} : Except Fault α → Option Fault
  | .ok _ => none
  | .error fault => some fault

end Render

end Mustache
