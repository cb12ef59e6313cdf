import Mustache.Proofs.HostedPartials

/-!
**Adjacent texts grouped otherwise.**

Putting adjacent texts together changes nothing but how texts are grouped: a maximal run of texts
becomes one text, from the start of the first to the end of the last, and any other token stays what
it is. It makes no difference whether parts of a list are put together first. In the tree of the
tokens, comments and delimiter tags are gone, so that texts may still be adjacent there; yet both
trees have the same sections and the same texts between them, and are rendered alike.

* `foldr_squashOnto`, `squash_squash`, `squash_append_squash`: putting texts together **once more**.
* `isChain_squash`: **no two texts are adjacent** any more.
* `JoinsTo`, `joinsTo_runs`: what becomes of **each run**.
* `Regrouped`, `nest?_squash`: trees that differ in how their texts are grouped.
* `Render.writtenText`, `Render.renderToken_regrouped`: such trees are **rendered alike**.
* `squash_regroups`: **the main statement.**
-/

namespace Mustache

namespace Token

/-! ### Once more -/

/-- **What was put together may be put before others** like the tokens that it came of. -/
theorem foldr_squashOnto (tokens rest : List Token) :
    (squash tokens).foldr squashOnto rest = tokens.foldr squashOnto rest := by
  induction tokens with
  | nil => rfl
  | cons token more hypothesis =>
    rw [List.foldr_cons, ← hypothesis, squash_cons]
    rcases squashOnto_cases token (squash more) with ⟨same, _⟩ | ⟨_, _, _, rfl, split, same⟩
    · rw [same, List.foldr_cons]
    · rw [same, split, List.foldr_cons, List.foldr_cons, squashOnto_squashOnto]

/-- **Nothing is left to be put together.** -/
theorem squash_squash (tokens : List Token) : squash (squash tokens) = squash tokens := by
  rw [squash_eq_foldr (squash tokens), foldr_squashOnto, ← squash_eq_foldr]

/-- **Parts may be put together first.** -/
theorem squash_append_squash (first second : List Token) :
    squash (first ++ second) = squash (squash first ++ squash second) := by
  have behind : ∀ first second,
      squash (first ++ second) = first.foldr squashOnto (squash second) := by
    intro first second
    rw [squash_eq_foldr, squash_eq_foldr, List.foldr_append]
  calc squash (first ++ second)
      = first.foldr squashOnto (squash second) := behind first second
    _ = first.foldr squashOnto (squash (squash second)) := by rw [squash_squash]
    _ = (squash first).foldr squashOnto (squash (squash second)) := (foldr_squashOnto _ _).symm
    _ = squash (squash first ++ squash second) := (behind _ _).symm

/-- **No two texts are adjacent** once texts are put together. -/
theorem isChain_squash (tokens : List Token) :
    (squash tokens).IsChain fun first second => bothTexts first second = false := by
  induction tokens with
  | nil => exact .nil
  | cons token rest hypothesis =>
    rw [squash_cons]
    rcases squashOnto_cases token (squash rest) with ⟨same, free⟩ | ⟨_, _, _, rfl, split, same⟩
    · rw [same]
      refine List.isChain_cons.mpr ⟨fun next member => ?_, hypothesis⟩
      unfold bothTexts
      cases sort : token.isText with
      | true => exact free sort next member
      | false => rfl
    · rw [split] at hypothesis
      rw [same]
      exact List.isChain_cons.mpr (List.isChain_cons.mp hypothesis)

/-! ### Runs -/

/-- **What a run becomes**: a token that is no text stays what it is, and texts become one, with all
that they hold, from the start of the first to the end of the last. -/
inductive JoinsTo : List Token → Token → Prop
  | other {token : Token} : token.isText = false → JoinsTo [token] token
  | texts {first last : Span} {spans : List Span} : spans.head? = some first →
      spans.getLast? = some last → JoinsTo (spans.map text)
        (text ⟨String.join (spans.map Span.value), first.start, last.stop⟩)

/-- Texts are made of spans. -/
theorem exists_map_text {tokens : List Token} (texts : ∀ token ∈ tokens, token.isText = true) :
    ∃ spans : List Span, spans.map text = tokens := by
  refine ⟨tokens.map span, ?_⟩
  rw [List.map_map]
  refine (List.map_congr_left fun token member => ?_).trans (List.map_id tokens)
  cases token with
  | text _ => rfl
  | _ => cases texts _ member

/-- **One run.** -/
theorem exists_joinsTo {run : List Token} (nonempty : run ≠ [])
    (chain : run.IsChain fun first second => bothTexts first second) :
    ∃ token, joinRun run = [token] ∧ JoinsTo run token := by
  cases run with
  | nil => exact absurd rfl nonempty
  | cons token rest =>
    have texts := isText_of_isChain chain
    cases token with
    | text first =>
      obtain ⟨spans, rfl⟩ := exists_map_text texts
      obtain ⟨last, final⟩ : ∃ last, (first :: spans).getLast? = some last :=
        ⟨_, List.getLast?_cons⟩
      have ended : ((first :: spans).map text).getLast? = some (text last) := by
        rw [List.getLast?_map, final]
        rfl
      refine ⟨_, ?_, @JoinsTo.texts first last (first :: spans) rfl final⟩
      rw [← List.map_cons, joinRun, ended, List.map_map]
      rfl
    | _ =>
      cases rest with
      | nil => exact ⟨_, rfl, .other rfl⟩
      | cons next more => cases (List.isChain_cons_cons.mp chain).1

/-- **The runs and what becomes of them**, one by one. -/
theorem joinsTo_runs (tokens : List Token) :
    List.Forall₂ JoinsTo (runs tokens) (squash tokens) := by
  have each : ∀ parts : List (List Token), (∀ run ∈ parts, run ≠ [] ∧
      run.IsChain fun first second => bothTexts first second) →
      List.Forall₂ JoinsTo parts (parts.flatMap joinRun) := by
    intro parts good
    induction parts with
    | nil => exact .nil
    | cons run rest hypothesis =>
      obtain ⟨⟨nonempty, chain⟩, later⟩ := List.forall_mem_cons.mp good
      obtain ⟨token, same, joins⟩ := exists_joinsTo nonempty chain
      rw [List.flatMap_cons, same]
      exact .cons joins (hypothesis later)
  rw [squash_eq]
  exact each (runs tokens) fun run member =>
    ⟨List.ne_nil_of_mem_splitBy member, List.isChain_of_mem_splitBy member⟩

/-! ### Trees -/

/-- **Trees that differ in how texts are grouped**: where one has some texts, the other has one text
that holds all of theirs; they have the same sections, and whatever else they have is the same. -/
inductive Regrouped : List Token → List Token → Prop
  | nil : Regrouped [] []
  | same {rest others : List Token} (token : Token) : Regrouped rest others →
      Regrouped (token :: rest) (token :: others)
  | texts {rest others : List Token} {spans : List Span} {joined : Span} :
      String.join (spans.map Span.value) = joined.value → Regrouped rest others →
      Regrouped (spans.map text ++ rest) (text joined :: others)
  | block {body other rest others : List Token} (inverted : Bool) (span : Span) (bodyStop : Int) :
      Regrouped body other → Regrouped rest others →
      Regrouped (block inverted span body bodyStop :: rest)
        (block inverted span other bodyStop :: others)

theorem Regrouped.append {first image second other : List Token}
    (regrouped : Regrouped first image) (behind : Regrouped second other) :
    Regrouped (first ++ second) (image ++ other) := by
  induction regrouped with
  | nil => exact behind
  | same token _ hypothesis => exact .same token hypothesis
  | texts joined _ hypothesis =>
    rw [List.append_assoc]
    exact .texts joined hypothesis
  | block inverted span bodyStop inside _ _ hypothesis =>
    exact .block inverted span bodyStop inside hypothesis

/-- **Open blocks that differ in how texts are grouped.** -/
structure OpenBlock.Regrouped (opened other : OpenBlock) : Prop where
  earlier : Token.Regrouped opened.earlier.reverse other.earlier.reverse
  inverted : opened.inverted = other.inverted
  span : opened.span = other.span
  bodyStop : opened.bodyStop = other.bodyStop

/-- A block that gets its body. -/
theorem OpenBlock.Regrouped.finish {opened other : OpenBlock} {body image : List Token}
    (beside : opened.Regrouped other) (inside : Token.Regrouped body image) (bodyStop : Int) :
    Token.Regrouped (opened.finish body bodyStop).reverse
      (other.finish image bodyStop).reverse := by
  unfold OpenBlock.finish
  rw [List.reverse_cons, List.reverse_cons, beside.inverted, beside.span]
  exact beside.earlier.append (.block _ _ _ inside .nil)

section Nesting

variable {opened others : List OpenBlock} {current image : List Token}
  (beside : List.Forall₂ OpenBlock.Regrouped opened others)
  (regrouped : Regrouped current.reverse image.reverse)

include beside regrouped

/-- The blocks that are still open at the end. -/
theorem regrouped_finishAll :
    Regrouped (finishAll opened current) (finishAll others image) := by
  induction beside generalizing current image with
  | nil => exact regrouped
  | cons here _ hypothesis =>
    unfold finishAll
    rw [here.bodyStop]
    exact hypothesis (here.finish regrouped _)

/-- **Nesting run by run**, within open blocks on either side. -/
theorem regrouped_nestWithin {parts : List (List Token)} {joined : List Token}
    (joins : List.Forall₂ JoinsTo parts joined) :
    Option.Rel Regrouped (nestWithin opened current parts.flatten)
      (nestWithin others image joined) := by
  induction joins generalizing opened others current image with
  | nil =>
    rw [List.flatten_nil, nestWithin_nil, nestWithin_nil]
    exact .some (regrouped_finishAll beside regrouped)
  | @cons run token parts joined here _ hypothesis =>
    rw [List.flatten_cons]
    cases here with
    | @texts first last spans head final =>
      have steps := (nests_leaves (leaves_spans spans)).filterMap_step?
      rw [nestWithin_flatten steps, nestWithin_leaf _ _ _ rfl]
      refine hypothesis beside ?_
      rw [List.reverse_append, List.reverse_reverse, List.reverse_cons]
      refine regrouped.append ?_
      have alone := @Regrouped.texts [] [] spans
        ⟨String.join (spans.map Span.value), first.start, last.stop⟩ rfl .nil
      rwa [List.append_nil] at alone
    | other plain =>
      rw [List.singleton_append]
      cases token with
      | text _ => cases plain
      | comment _ | delimiters _ =>
        rw [nestWithin_silent _ _ _ rfl, nestWithin_silent _ _ _ rfl]
        exact hypothesis beside regrouped
      | interpolation _ _ | partialTag _ _ =>
        rw [nestWithin_leaf _ _ _ rfl, nestWithin_leaf _ _ _ rfl]
        refine hypothesis beside ?_
        rw [List.reverse_cons, List.reverse_cons]
        exact regrouped.append (.same _ .nil)
      | block inverted span body bodyStop =>
        rw [nestWithin_block, nestWithin_block]
        exact hypothesis (.cons ⟨regrouped, rfl, rfl, rfl⟩ beside) .nil
      | close span =>
        cases beside with
        | nil => exact .none
        | cons innermost outer => exact hypothesis outer (innermost.finish regrouped span.start)

end Nesting

/-- **The trees of tokens before and after texts are put together.** -/
theorem nest?_squash (tokens : List Token) :
    Option.Rel Regrouped (nest? tokens) (nest? (squash tokens)) := by
  have nested := @regrouped_nestWithin [] [] [] [] .nil .nil _ _ (joinsTo_runs tokens)
  rwa [runs, List.flatten_splitBy] at nested

end Token

/-! ### Renderings -/

namespace Render

variable {σ : Type}

/-- The text that some pieces came to, or the fault that one of them cannot be written. -/
def writtenText : Option String → Action σ String
  | some content => pure content
  | none => throw .wrongType

/-- Steps whose pieces come to the same texts. -/
theorem bind_joinPieces_congr {first second : Action σ (List Piece)}
    (same : Piece.join? <$> first = Piece.join? <$> second) :
    first >>= joinPieces = second >>= joinPieces := by
  have later : ∀ step : Action σ (List Piece),
      step >>= joinPieces = Piece.join? <$> step >>= writtenText := by
    intro step
    rw [bind_map_left]
    refine bind_congr fun pieces => ?_
    unfold joinPieces
    cases Piece.join? pieces <;> rfl
  rw [later, later, same]

variable {setting : Setting σ} {search : Frame.Search} {again : Views → String → Action σ String}
  {expansion : Views → Span → Int → Value → Action σ Piece}

theorem join?_renderPieces_append (views : Views) (first second : List Token) :
    Piece.join? <$> renderPieces search setting again expansion views (first ++ second) =
      (do let content? ← Piece.join? <$> renderPieces search setting again expansion views first
          let other? ← Piece.join? <$> renderPieces search setting again expansion views second
          pure (content?.bind fun content => other?.map (content ++ ·))) := by
  rw [renderPieces_append]
  simp only [map_bind, map_pure, Piece.join?_append, bind_map_left]

theorem join?_renderPieces_cons (views : Views) (token : Token) (rest : List Token) :
    Piece.join? <$> renderPieces search setting again expansion views (token :: rest) =
      (do let piece ← renderToken search setting again expansion views token
          let other? ← Piece.join? <$> renderPieces search setting again expansion views rest
          pure ((Piece.join? [piece]).bind fun content => other?.map (content ++ ·))) := by
  rw [renderPieces_cons]
  simp only [map_bind, map_pure, bind_map_left, ← Piece.join?_append, List.singleton_append]

/-- **A section** whose body comes to the same text with all views. -/
theorem renderToken_block_congr {body other : List Token}
    (same : ∀ views, renderPieces search setting again expansion views body >>= joinPieces =
      renderPieces search setting again expansion views other >>= joinPieces)
    (inverted : Bool) (span : Span) (bodyStop : Int) (views : Views) :
    renderToken search setting again expansion views (.block inverted span body bodyStop) =
      renderToken search setting again expansion views (.block inverted span other bodyStop) := by
  cases inverted <;> simp only [renderToken, ← map_bind, same]

/-- **Trees that differ in how texts are grouped** come to the same text. -/
theorem join?_renderPieces_regrouped {tree other : List Token}
    (regrouped : Token.Regrouped tree other) (views : Views) :
    Piece.join? <$> renderPieces search setting again expansion views tree =
      Piece.join? <$> renderPieces search setting again expansion views other := by
  induction regrouped generalizing views with
  | nil => rfl
  | same token _ hypothesis =>
    rw [join?_renderPieces_cons, join?_renderPieces_cons, hypothesis]
  | @texts rest others spans joined together _ hypothesis =>
    rw [join?_renderPieces_append, join?_renderPieces_cons, hypothesis, renderPieces_spans,
      map_pure, join?_spans, together, pure_bind, renderToken, pure_bind]
    simp only [Piece.join?, Option.map_some, String.append_empty]
  | block inverted span bodyStop _ _ inside behind =>
    have body := fun views => bind_joinPieces_congr (inside views)
    rw [join?_renderPieces_cons, join?_renderPieces_cons, behind,
      renderToken_block_congr body inverted span bodyStop views]

/-- **Such trees are rendered alike.** -/
theorem renderLevel_regrouped {tree other : List Token} (regrouped : Token.Regrouped tree other)
    (expansion : Expansion σ) (template : Option String) (views : Views) :
    renderLevel expansion setting again template views tree =
      renderLevel expansion setting again template views other :=
  bind_joinPieces_congr (join?_renderPieces_regrouped regrouped views)

end Render

/-- **Such trees are rendered alike by an engine**, which is left the same. -/
theorem Engine.renderTokens_regrouped {σ : Type} {tree other : List Token}
    (regrouped : Token.Regrouped tree other) (engine : Engine σ) (host : Host σ) (views : Views)
    (partials : Partials σ) (template : Option String) (config : ConfigSource) :
    engine.renderTokens host tree views partials template config =
      engine.renderTokens host other views partials template config := by
  unfold renderTokens
  simp only [Render.renderLevel_regrouped regrouped]

/-! ### The grouping of texts -/

/-- **Putting adjacent texts together changes nothing but how texts are grouped.** No two texts are
adjacent any more; all other tokens are kept in their order; each maximal run of texts becomes one
text with all that they hold, from the start of the first to the end of the last. To do so once
more, or for two parts of a list first, makes no difference. And either both lists have a tree or
neither has, and an engine comes to the same with both trees, and is left the same. -/
theorem Token.squash_regroups (tokens : List Token) :
    (squash tokens).IsChain (fun first second => bothTexts first second = false) ∧
      (squash tokens).filter (fun token => !token.isText) =
        tokens.filter (fun token => !token.isText) ∧
      ((runs tokens).flatten = tokens ∧
        (runs tokens).IsChain (fun run next => ∃ last ∈ run.getLast?, ∃ first ∈ next.head?,
          bothTexts last first = false) ∧
        List.Forall₂ JoinsTo (runs tokens) (squash tokens)) ∧
      squash (squash tokens) = squash tokens ∧
      (∀ before, squash (before ++ tokens) = squash (squash before ++ squash tokens)) ∧
      ∀ (σ : Type) (engine : Engine σ) (host : Host σ) (views : Views) (partials : Partials σ)
        (template : Option String) (config : ConfigSource),
        (nest? (squash tokens)).map (fun tree =>
          engine.renderTokens host tree views partials template config) =
        (nest? tokens).map fun tree =>
          engine.renderTokens host tree views partials template config := by
  refine ⟨isChain_squash tokens, filter_squash tokens,
    ⟨List.flatten_splitBy _ _, ?_, joinsTo_runs tokens⟩, squash_squash tokens,
    fun before => squash_append_squash before tokens, ?_⟩
  · refine (List.isChain_getLast_head_splitBy bothTexts tokens).imp fun run next apart => ?_
    obtain ⟨here, there, miss⟩ := apart
    exact ⟨_, List.getLast_mem_getLast? here, _, List.head_mem_head? there, miss⟩
  · intro σ engine host views partials template config
    have beside := nest?_squash tokens
    generalize nest? tokens = nested, nest? (squash tokens) = squashed at beside ⊢
    cases beside with
    | none => rfl
    | some regrouped =>
      exact congrArg some (Engine.renderTokens_regrouped regrouped engine host views partials
        template config).symm

/-- Texts on either side of a comment stay apart, although the comment leaves no node between
them. -/
example :
    let tokens := [Token.text ⟨"a", 0, 1⟩, .text ⟨"b", 1, 2⟩, .comment ⟨"", 2, 7⟩,
      .text ⟨"c", 7, 8⟩]
    Token.squash tokens = [.text ⟨"ab", 0, 2⟩, .comment ⟨"", 2, 7⟩, .text ⟨"c", 7, 8⟩] ∧
      Token.nest? (Token.squash tokens) = some [.text ⟨"ab", 0, 2⟩, .text ⟨"c", 7, 8⟩] :=
  ⟨rfl, rfl⟩

end Mustache
