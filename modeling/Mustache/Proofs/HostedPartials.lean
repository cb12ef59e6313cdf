import Mustache.Proofs.ReachedEngines
import Mustache.Proofs.StandalonePartials

/-!
**Partials of one line on the lines of their tags.**

A partial tag has blanks before it on its line and a text behind it. Whether the blanks are stripped
is decided at the end of the line: they are if the text is blank too. Whether the partial gets them
as its indentation is decided at the tag: it does if nothing but blanks stands before it. So a
partial of one line has its indentation once if the text is blank, and twice otherwise.

* `parse_plain`, `Render.outcome_plain`: a text without tags, which comes to itself.
* `HostedPartial`: the line of a partial tag; `HostedPartial.parse_text`: its tree.
* `Render.outcome_renderPartial_plain`: a partial of one line without tags.
* `Engine.renderDirectly_hosted`: **the main statement.**
* `Engine.not_hosted_once`: a line on which the indentation stands twice.
-/

namespace Mustache

variable {σ : Type}

open Lexer

/-! ### Texts without tags -/

/-- A content that is nowhere in a text. -/
theorem Text.absent_of_not_infix {content run : List Char} (free : ¬ content <:+: run) :
    Text.Absent content run [] := by
  intro part suffix _ begins
  rw [List.append_nil] at begins
  exact free (begins.isInfix.trans suffix.isInfix)

namespace Token

theorem leaves_spans (spans : List Span) :
    ∀ token ∈ spans.map text, token.isSectionMark = false ∧ token.isSilent = false := by
  intro token member
  obtain ⟨span, _, rfl⟩ := List.mem_map.mp member
  exact ⟨rfl, rfl⟩

end Token

/-- **A text without tags** is a tree of texts. -/
theorem parse_plain {delimiters : Delimiters} {template : String}
    (plain : Text.Absent delimiters.opening.toList template.toList []) :
    ∃ spans : List Span, parse delimiters template = .ok (spans.map Token.text) ∧
      String.join (spans.map Span.value) = template := by
  have texts := isText_textTokens 0 template.toList
  have lexed : lex delimiters 0 template.toList =
      ⟨textTokens 0 template.toList, none, delimiters⟩ := by
    have skip := @lex_skip delimiters 0 _ _ plain
    rw [List.append_nil, lex_nil] at skip
    rw [skip]
    simp [Lexed.prepend]
  have read : tokenize delimiters template = .ok (textTokens 0 template.toList) := by
    rw [tokenize_eq_ok_iff, lexed, Token.annotate_texts]
    exact ⟨rfl, Token.balanced_textTokens 0 _, rfl⟩
  have left := Token.nests_of_tokenize read
  rw [Token.keep_of_not_standalone fun line member standalone => ?_] at left
  · obtain ⟨spans, merged, same⟩ := Token.exists_spans_of_squash texts
    rw [merged] at left
    refine ⟨spans, parse_eq_ok_iff.mpr ⟨_, read, (left.eq (Token.nests_leaves ?_)).symm⟩, ?_⟩
    · exact Token.leaves_spans spans
    · rw [same, join_textTokens, String.ofList_toList]
  · obtain ⟨before, after, split⟩ := List.append_of_mem member
    obtain ⟨token, inside, tag⟩ := standalone.tag
    rw [texts token (Token.mem_of_mem_lines split inside)] at tag
    cases tag

/-! ### The line of a partial tag -/

/-- **A partial tag with blanks before it and a text behind it on its line**: its name, the blanks
in it, the blanks before it, and the rest of the line. -/
structure HostedPartial where
  name : List Char
  gaps : Gaps
  indentation : Indentation
  rest : List Char

namespace HostedPartial

variable (line : HostedPartial)

/-- The tag. -/
def tag : Item := .tag .partialTag line.gaps line.name

/-- **The template of the line.** -/
def text (delimiters : Delimiters) : String :=
  String.ofList
    (Item.printAll delimiters [.text line.indentation.val, line.tag, .text line.rest])

/-- **A line with no other tag**: the tag ends where its closing delimiter is printed, and the rest
of the line holds no opening delimiter and no line feed. -/
structure Legible (delimiters : Delimiters) : Prop where
  tag : line.tag.Legible delimiters []
  plain : ¬ delimiters.opening.toList <:+: line.rest
  single : '\n' ∉ line.rest

/-- The line as the tag sees it. -/
def host : HostLine := { indentation := String.ofList line.indentation.val }

/-- What is left of a part of the line: nothing if the rest of the line is blank. -/
def left (part : List Char) : String :=
  if Text.Blank line.rest then "" else String.ofList part

variable {line} {delimiters : Delimiters}

/-- **The tokens of the line**: the tag, with the blanks before it, among texts. -/
theorem tokenize_text (unbroken : delimiters.Unbroken) (legible : line.Legible delimiters) :
    ∃ span offset, span.value = String.ofList line.name ∧
      tokenize delimiters (line.text delimiters) =
        .ok (textTokens 0 line.indentation.val ++
          (.partialTag span line.host :: textTokens offset line.rest)) := by
  have legibleAll : Item.LegibleAll delimiters
      [.text line.indentation.val, line.tag, .text line.rest] :=
    ⟨unbroken.absent_blank line.indentation.blank _, legible.tag,
      Text.absent_of_not_infix legible.plain, trivial⟩
  have host : (textTokens 0 line.indentation.val).foldl HostLine.after {} = line.host := by
    rw [HostLine.foldl_blank line.indentation.blank line.indentation.newline_not_mem,
      String.empty_append]
    rfl
  have tags : ∀ run, line.tag ≠ .text run := nofun
  have tokens : ∃ span offset, span.value = String.ofList line.name ∧
      Item.tokensOf delimiters 0 [.text line.indentation.val, line.tag, .text line.rest] =
        textTokens 0 line.indentation.val ++
          (.partialTag span {} :: textTokens offset line.rest) := by
    simp only [Item.tokensOf, Item.tokens_text, tokens_tag tags, List.append_nil]
    exact ⟨_, _, rfl, rfl⟩
  obtain ⟨span, offset, value, same⟩ := tokens
  refine ⟨span, offset, value, ?_⟩
  have balanced : Token.Balanced (textTokens 0 line.indentation.val ++
      (.partialTag span {} :: textTokens offset line.rest)) :=
    (Token.balanced_textTokens 0 _).append (.leaf rfl (Token.balanced_textTokens offset _))
  have lexed : lex delimiters 0 (line.text delimiters).toList =
      ⟨textTokens 0 line.indentation.val ++
        (.partialTag span {} :: textTokens offset line.rest), none, delimiters⟩ := by
    rw [text, String.toList_ofList, lex_printAll unbroken.inkFirst_closing legibleAll, same]
    rfl
  rw [tokenize_eq_ok_iff, lexed]
  refine ⟨rfl, balanced, ?_⟩
  rw [Token.annotate_append, Token.annotate_texts, host, Token.annotate, Token.annotate_texts]
  rfl

/-- If the rest of the line is not blank, the line is left as it is. -/
theorem keep_tokens (single : '\n' ∉ line.rest) (solid : ¬ Text.Blank line.rest) {span : Span}
    {offset : Int} :
    let tokens := textTokens 0 line.indentation.val ++
      (.partialTag span line.host :: textTokens offset line.rest)
    Token.keep (Token.strippedIndexes tokens) tokens = tokens := by
  intro tokens
  have within : ∀ token ∈ tokens, token.isNewline = false := by
    intro token member
    rcases List.mem_append.mp member with inside | inside
    · exact isNewline_textTokens line.indentation.newline_not_mem 0 token inside
    · rcases List.mem_cons.mp inside with rfl | inside
      · rfl
      · exact isNewline_textTokens single offset token inside
  have whole : Token.lines tokens = [tokens] := by
    refine List.splitBy_of_isChain (by simp [tokens]) ?_
    refine (List.pairwise_of_forall_mem_list fun token member _ _ => ?_).isChain
    rw [within token member]
    rfl
  refine Token.keep_of_not_standalone fun other member standalone => solid fun char inside => ?_
  rw [whole, List.mem_singleton] at member
  rw [member] at standalone
  obtain ⟨place, found⟩ := exists_mem_of_char inside offset
  have blank := standalone.blank _ (List.mem_append_right _ (List.mem_cons_of_mem _ found))
  exact blank char (by simp)

/-- **The tree of the line**: the tag among what is left of the texts. -/
theorem parse_text (unbroken : delimiters.Unbroken) (legible : line.Legible delimiters) :
    ∃ (span : Span) (front back : List Span), span.value = String.ofList line.name ∧
      parse delimiters (line.text delimiters) =
        .ok (front.map Token.text ++ (.partialTag span line.host :: back.map Token.text)) ∧
      String.join (front.map Span.value) = line.left line.indentation.val ∧
      String.join (back.map Span.value) = line.left line.rest := by
  obtain ⟨span, offset, value, read⟩ := tokenize_text unbroken legible
  have tree := Token.nests_of_tokenize read
  have before := isText_textTokens 0 line.indentation.val
  have behind := isText_textTokens offset line.rest
  by_cases blank : Text.Blank line.rest
  · -- the line is standalone, and only the tag is left of it
    have lone : Token.LoneTag (.partialTag span line.host) (textTokens 0 line.indentation.val ++
        (.partialTag span line.host :: textTokens offset line.rest)) := by
      have margins := @Item.loneTag_margins line.indentation.margin
        ⟨line.rest, blank, legible.single⟩ false (.partialTag span line.host) rfl 0 offset 0
      simp only [lineEnd, textTokens, Bool.false_eq_true, if_false, List.append_nil,
        List.singleton_append] at margins
      exact margins
    rw [lone.keep rfl] at tree
    refine ⟨span, [], [], value, parse_eq_ok_iff.mpr ⟨_, read, ?_⟩, ?_, ?_⟩
    · exact (tree.eq (.leaf rfl rfl .nil)).symm
    · rw [left, if_pos blank]
      rfl
    · rw [left, if_pos blank]
      rfl
  · rw [keep_tokens legible.single blank] at tree
    have apart : Token.squash (textTokens 0 line.indentation.val ++
        (.partialTag span line.host :: textTokens offset line.rest)) =
        Token.squash (textTokens 0 line.indentation.val) ++
          (.partialTag span line.host :: Token.squash (textTokens offset line.rest)) := by
      refine (Token.squash_append fun _ _ _ next member => by cases member; rfl).trans ?_
      rw [Token.squash_cons, Token.squashOnto_eq_cons fun own => by cases own]
    obtain ⟨front, merged, same⟩ := Token.exists_spans_of_squash before
    obtain ⟨back, mergedBack, sameBack⟩ := Token.exists_spans_of_squash behind
    rw [apart, merged, mergedBack] at tree
    refine ⟨span, front, back, value, parse_eq_ok_iff.mpr ⟨_, read, ?_⟩, ?_, ?_⟩
    · refine (tree.eq (Token.nests_leaves fun token member => ?_)).symm
      rcases List.mem_append.mp member with inside | inside
      · exact Token.leaves_spans front token inside
      · rcases List.mem_cons.mp inside with rfl | inside
        · exact ⟨rfl, rfl⟩
        · exact Token.leaves_spans back token inside
    · rw [same, join_textTokens, left, if_neg blank]
    · rw [sameBack, join_textTokens, left, if_neg blank]

end HostedPartial

namespace Render

open Mustache.Action

variable {setting : Setting σ} {delimiters : Delimiters} {session : Session σ}

/-- Texts are written as they are. -/
theorem renderPieces_spans {search : Frame.Search} {again : Views → String → Action σ String}
    {expansion : Views → Span → Int → Value → Action σ Piece} (views : Views)
    (spans : List Span) :
    renderPieces search setting again expansion views (spans.map Token.text) =
      pure (spans.map fun span => .text span.value) := by
  induction spans with
  | nil => rw [List.map_nil, renderPieces, List.map_nil]
  | cons span rest hypothesis =>
    rw [List.map_cons, renderPieces_text, hypothesis, pure_bind, List.map_cons]

theorem join?_spans (spans : List Span) :
    Piece.join? (spans.map fun span => .text span.value) =
      some (String.join (spans.map Span.value)) := by
  induction spans with
  | nil => rfl
  | cons span rest hypothesis =>
    rw [List.map_cons, Piece.join?, hypothesis, Option.map_some, List.map_cons, String.join_cons]

/-- **A text without tags comes to itself.** -/
theorem outcome_plain {template : String} (resolved : setting.tags.resolve = .ok delimiters)
    (sound : session.CacheSound)
    (plain : Text.Absent delimiters.opening.toList template.toList []) (depth : Nat)
    (views : Views) :
    ((renderText setting (depth + 1) views template).outcome session).1 = .ok template := by
  obtain ⟨spans, parsed, same⟩ := parse_plain plain
  obtain ⟨after, _, _, _, rendered⟩ :=
    outcome_renderText_of_parse resolved sound parsed depth views
  have written : renderLevel (renderExpansion setting) setting (renderText setting depth)
      (some template) views (spans.map Token.text) = pure template := by
    unfold renderLevel renderLevelWith joinPieces
    rw [renderPieces_spans, pure_bind, join?_spans, same]
  rw [rendered, written]
  rfl

/-- Texts around another text are put together with it. -/
theorem joinPieces_around (front back : List Span) (content : String) :
    (joinPieces (front.map (fun span => .text span.value) ++
        .text content :: back.map fun span => .text span.value) : Action σ String) =
      pure (String.join (front.map Span.value) ++ content ++
        String.join (back.map Span.value)) := by
  unfold joinPieces
  rw [Piece.join?_append, join?_spans, Piece.join?, join?_spans]
  simp [String.append_assoc]

section Hosted

variable {line : HostedPartial} {content : String} (unbroken : delimiters.Unbroken)
  (plain : ¬ delimiters.opening.toList <:+: content.toList) (single : '\n' ∉ content.toList)
  (nonempty : content ≠ "") (resolved : setting.tags.resolve = .ok delimiters)
  (sound : session.CacheSound)

include unbroken plain single nonempty resolved sound

/-- **A partial of one line without tags** comes to itself with the indentation before it. -/
theorem outcome_renderPartial_plain {name : String} {indentation : Indentation}
    (found : ((findPartial setting name).outcome session).1 = .ok (some content)) (depth : Nat)
    (views : Views) :
    ((renderPartial setting (renderText setting (depth + 1) views) name
      { indentation := String.ofList indentation.val }).outcome session).1 =
        .ok (.text (String.ofList indentation.val ++ content)) := by
  have some : content.toList ≠ [] := mt String.toList_eq_nil_iff.mp nonempty
  have indented : indentation.indent content = String.ofList indentation.val ++ content := by
    apply String.toList_inj.mp
    rw [indentation.toList_indent, ← List.append_nil content.toList, Text.indent_line single some,
      String.toList_append, String.toList_ofList]
    simp [Text.spread]
  have absent : Text.Absent delimiters.opening.toList (indentation.indent content).toList [] := by
    rw [indented, String.toList_append, String.toList_ofList]
    refine Text.Absent.append_run ?_ (Text.absent_of_not_infix plain)
    exact unbroken.absent_blank indentation.blank _
  -- looking for the partial leaves the cache as it is
  have further : ((findPartial setting name).outcome session).2.CacheSound :=
    ((relates_findPartial (cachePairing_coupling views views) (fun _ _ => trivial)
      (setting.alike_refl fun _ => trivial) name session session (related_self sound)).2).2.2.sound
  have written := outcome_plain resolved further absent depth views
  rw [outcome_renderPartial found, outcome_bind_ok found, ← bind_pure_comp,
    outcome_bind_ok written, indented]
  rfl

/-- **A partial of one line on the line of its tag**: what is left of the blanks before the tag, the
indented partial, and what is left of the rest of the line. -/
theorem outcome_hosted (legible : line.Legible delimiters)
    (gives : ∀ other : Session σ, other.host = session.host →
      ((findPartial setting (String.ofList line.name)).outcome other).1 = .ok (some content))
    (depth : Nat) (views : Views) :
    ((renderText setting (depth + 2) views (line.text delimiters)).outcome session).1 =
      .ok (line.left line.indentation.val ++ (String.ofList line.indentation.val ++ content) ++
        line.left line.rest) := by
  obtain ⟨span, front, back, value, parsed, ahead, behind⟩ :=
    HostedPartial.parse_text unbroken legible
  obtain ⟨after, _, host, kept, rendered⟩ :=
    outcome_renderText_of_parse resolved sound parsed (depth + 1) views
  have piece : ((renderPartial setting (renderText setting (depth + 1) views)
      (String.ofList line.name) line.host).outcome after).1 = _ :=
    outcome_renderPartial_plain unbroken plain single nonempty resolved kept (gives after host)
      depth views
  have level : renderLevel (renderExpansion setting) setting (renderText setting (depth + 1))
      (some (line.text delimiters)) views
        (front.map Token.text ++ (.partialTag span line.host :: back.map Token.text)) =
      (do let piece ← renderPartial setting (renderText setting (depth + 1) views)
            (String.ofList line.name) line.host
          joinPieces (front.map (fun span => .text span.value) ++
            piece :: back.map fun span => .text span.value)) := by
    unfold renderLevel renderLevelWith
    simp only [renderPieces_append, renderPieces_cons, renderPieces_spans, renderToken, value,
      bind_assoc, pure_bind]
  rw [rendered, level, outcome_bind_ok piece, joinPieces_around, ahead, behind]
  rfl

end Hosted

end Render

namespace Engine

open Mustache.Render

/-- **The indentation of a partial stands once on a line that is stripped, and twice on one that is
kept.** A line of blanks, a partial tag and a text without tags is rendered with delimiters that
contain no blank. If the partial is one line without tags, it has the blanks before it; and if the
text behind the tag is not all blank, then the line has its own blanks before them as well, as only
what stands before a tag decides whether the first line of its partial is indented. -/
theorem renderDirectly_hosted {engine : Engine σ} (reached : engine.Reached) (host : Host σ)
    (views : Views) (partials : Partials σ) {config : ConfigSource} {given : RenderConfig}
    {delimiters : Delimiters} {line : HostedPartial} {content : String}
    (coerced : RenderConfig.coerce config = .ok given)
    (resolved : given.resolvedTags.resolve = .ok delimiters) (unbroken : delimiters.Unbroken)
    (legible : line.Legible delimiters)
    (gives : ∀ session : Session σ, session.host = engine.session.host →
      ((findPartial (setting host partials given) (String.ofList line.name)).outcome session).1 =
        .ok (some content))
    (nonempty : content ≠ "") (single : '\n' ∉ content.toList)
    (plain : ¬ delimiters.opening.toList <:+: content.toList) :
    (engine.renderDirectly host (line.text delimiters) views partials config).1 =
      .ok (String.ofList
        (if Text.Blank line.rest then line.indentation.val ++ content.toList
        else line.indentation.val ++ line.indentation.val ++ content.toList ++ line.rest)) := by
  have sound : Session.CacheSound { engine.session with memo := [] } :=
    cacheSound_of_reached reached
  have tags : (setting host partials given).tags.resolve = .ok delimiters := resolved
  rw [renderDirectly_eq _ _ _ _ _ coerced]
  simp only
  rw [show depthLimit = 998 + 2 from rfl,
    outcome_hosted unbroken plain single nonempty tags sound legible gives 998 views]
  refine congrArg Except.ok (String.toList_inj.mp ?_)
  unfold HostedPartial.left
  by_cases blank : Text.Blank line.rest
  · simp [blank]
  · simp [blank]

/-- A line with a space and a tab before the tag of a partial, and a word behind it. -/
def hostedLine : HostedPartial where
  name := ['p']
  gaps := ⟨⟨[], Text.blank_nil⟩, ⟨[' '], Text.blank_space⟩, ⟨[], Text.blank_nil⟩⟩
  indentation := Indentation.space ++ Indentation.tab
  rest := [' ', 'x']

/-- The partial of its tag. -/
def hostedPartials : Partials Counts := .table [("p", .text "y")]

theorem renderDirectly_hosted_word :
    let engine : Engine Counts := new [] (some (.empty true))
    let strippedLine := { hostedLine with rest := [' '] }
    let rendered := fun line : HostedPartial =>
      (engine.renderDirectly (Recipe.host #[]) (line.text .standard) ⟨.mapping [], []⟩
        hostedPartials (.ready {})).1
    engine.Reached ∧ Delimiters.standard.Unbroken ∧ hostedLine.Legible .standard ∧
      strippedLine.Legible .standard ∧ ¬ ['\x7b', '\x7b'] <:+: "y".toList ∧
      rendered hostedLine = .ok " \t \ty x" ∧ rendered strippedLine = .ok " \ty" := by
  intro engine strippedLine rendered
  have reached : engine.Reached := .new [] (some true)
  have unbroken : Delimiters.standard.Unbroken := by decide +kernel
  have legible : hostedLine.Legible .standard ∧ strippedLine.Legible .standard :=
    ⟨⟨by decide +kernel, by decide +kernel, by decide +kernel⟩,
      ⟨by decide +kernel, by decide +kernel, by decide +kernel⟩⟩
  have plain : ¬ ['\x7b', '\x7b'] <:+: "y".toList := by decide +kernel
  have gives : Gives (setting (Recipe.host #[]) hostedPartials {}) "p" "y" :=
    gives_table rfl rfl (by decide)
  have coerced : RenderConfig.coerce (.ready {}) = .ok {} := rfl
  have solid : rendered hostedLine = _ := renderDirectly_hosted reached (Recipe.host #[])
    ⟨.mapping [], []⟩ hostedPartials coerced rfl unbroken legible.1 (fun session _ => gives session)
    (by decide) (by decide +kernel) plain
  have blank : rendered strippedLine = _ := renderDirectly_hosted reached (Recipe.host #[])
    ⟨.mapping [], []⟩ hostedPartials coerced rfl unbroken legible.2 (fun session _ => gives session)
    (by decide) (by decide +kernel) plain
  refine ⟨reached, unbroken, legible.1, legible.2, plain, solid.trans ?_, blank.trans ?_⟩
  · exact congrArg Except.ok (by decide +kernel)
  · exact congrArg Except.ok (by decide +kernel)

/-- **A word behind the tag of an indented partial**: the line is kept, and the partial has the
blanks before it a second time. -/
theorem not_hosted_once :
    let engine : Engine Counts := new [] (some (.empty true))
    let rendered := (engine.renderDirectly (Recipe.host #[]) (hostedLine.text .standard)
      ⟨.mapping [], []⟩ hostedPartials (.ready {})).1.toOption
    engine.Reached ∧ Delimiters.standard.Unbroken ∧ hostedLine.Legible .standard ∧
      hostedLine.text .standard = " \t\x7b\x7b> p\x7d\x7d x" ∧
      Gives (setting (Recipe.host #[]) hostedPartials {}) "p" "y" ∧
      rendered = some " \t \ty x" ∧
      rendered ≠ some (String.ofList
        (hostedLine.indentation.val ++ "y".toList ++ hostedLine.rest)) := by
  intro engine rendered
  have output : rendered = some " \t \ty x" := by decide +kernel
  refine ⟨.new [] (some true), by decide +kernel,
    ⟨by decide +kernel, by decide +kernel, by decide +kernel⟩, by decide +kernel,
    gives_table rfl rfl (by decide), output, ?_⟩
  rw [output]
  decide +kernel

end Engine

end Mustache
