import Mustache.Proofs.KeptTokens
import Mustache.Proofs.Nesting

/-!
**The tree of a template is faithful to it.**

A template is made into a tree in four steps: its tokens are read, standalone lines are stripped,
adjacent texts are put together, and sections take their bodies. In the tree that comes about, nodes
stand in the order of the template, each section spans its body up to its own closing tag, each text
is what the template holds at its place, and the nodes are the tokens that are to be seen.

* `Token.FaithfulTree`: what it means that a tree is faithful.
* `balanced_congr`, `exists_section_of_filter`: sections are told from the tags alone.
* `parse_faithful`: **the main statement.**
-/

namespace Mustache

namespace Token

/-- **What it means that a tree is faithful** to a template, its tokens and what is stripped of
them. -/
structure FaithfulTree (template : List Char) (tokens : List Token) (stripped : List Nat)
    (tree : List Token) : Prop where
  /-- Siblings stand in the order of the template, apart from each other. -/
  ordered : ∀ siblings, Level tree siblings →
    siblings.Pairwise fun first second => first.span.stop ≤ second.span.start
  /-- The body of a section lies behind its tag, up to a place in the template. -/
  body : ∀ siblings inverted span body bodyStop, Level tree siblings →
    block inverted span body bodyStop ∈ siblings →
    span.stop ≤ bodyStop ∧ bodyStop ≤ template.length ∧
      ∀ node ∈ preorder body, span.stop ≤ node.span.start ∧ node.span.stop ≤ bodyStop
  /-- The body ends where the closing tag of the section starts: a tag of the same name, with
  balanced tokens between the two. -/
  closing : ∀ siblings inverted span body bodyStop, Level tree siblings →
    block inverted span body bodyStop ∈ siblings →
    ∃ before inner closing after,
      tokens = before ++ block inverted span [] openStop :: (inner ++ close closing :: after) ∧
        Balanced inner ∧ closing.value = span.value ∧ closing.start = bodyStop
  /-- A text is what the template holds at its place. -/
  text : ∀ siblings span, Level tree siblings → text span ∈ siblings →
    span.value.toList = span.slice template
  /-- Closing tags, comments and delimiter tags leave no node. -/
  heard : ∀ siblings token, Level tree siblings → token ∈ siblings →
    token.kind ≠ .close ∧ token.kind ≠ .comment ∧ token.kind ≠ .delimiters
  /-- The nodes in the order of the template: what is left of the tokens, each run of adjacent texts
  as one text. -/
  nodes : preorder tree =
    ((runs (keep stripped tokens)).flatMap joinRun).filter fun token => !token.isSilent

/-! ### Sections and tags -/

theorem not_isText_of_isSectionMark {token : Token} (mark : token.isSectionMark = true) :
    (!token.isText) = true := by
  cases token with
  | text _ => cases mark
  | _ => rfl

/-- Whether tokens are balanced is told from the tags alone. -/
theorem balanced_congr {first second : List Token}
    (same : first.filter (fun token => !token.isText) =
      second.filter fun token => !token.isText) : Balanced first ↔ Balanced second := by
  have marks := fun token => @not_isText_of_isSectionMark token
  rw [balanced_iff, balanced_iff, ← openAfter_filter marks first, same, openAfter_filter marks]

theorem exists_split_of_filter {keep : Token → Bool} {tokens first second : List Token}
    {token : Token} (same : tokens.filter keep = first ++ token :: second) :
    ∃ before after, tokens = before ++ token :: after ∧ before.filter keep = first ∧
      after.filter keep = second := by
  obtain ⟨left, right, rfl, rfl, found⟩ := List.filter_eq_append_iff.mp same
  obtain ⟨gap, after, rfl, absent, _, rfl⟩ := List.filter_eq_cons_iff.mp found
  refine ⟨left ++ gap, after, (List.append_assoc _ _ _).symm, ?_, rfl⟩
  rw [List.filter_append, List.filter_eq_nil_iff.mpr absent, List.append_nil]

/-- **A section is told from the tags alone**: it has the same two tags among other texts. -/
theorem exists_section_of_filter {flat tokens before inner after : List Token} {opener : Token}
    {closing : Span} (tags : flat.filter (fun token => !token.isText) =
      tokens.filter fun token => !token.isText)
    (split : flat = before ++ opener :: (inner ++ close closing :: after))
    (mark : opener.isText = false) (balanced : Balanced inner) :
    ∃ first middle last, tokens = first ++ opener :: (middle ++ close closing :: last) ∧
      Balanced middle := by
  rw [split, List.filter_append, List.filter_cons_of_pos (by rw [mark]; rfl),
    List.filter_append, List.filter_cons_of_pos rfl] at tags
  obtain ⟨first, rest, rfl, _, found⟩ := exists_split_of_filter tags.symm
  obtain ⟨middle, last, rfl, same, _⟩ := exists_split_of_filter found
  exact ⟨first, middle, last, rfl, (balanced_congr same).mpr balanced⟩

/-! ### Tokens without bodies -/

theorem bare_ofKind (kind : Kind) (span : Span) : (ofKind kind span).bare = ofKind kind span := by
  cases kind <;> rfl

theorem bare_onLine (line : HostLine) (token : Token) (same : token.bare = token) :
    (token.onLine line).bare = token.onLine line := by
  cases token with
  | partialTag _ _ => rfl
  | _ => exact same

end Token

open Lexer

theorem bare_of_readTag? {delimiters : Delimiters} {offset : Int} {text rest : List Char}
    {token : Token} (read : readTag? delimiters offset text = some (token, rest)) :
    token.bare = token := by
  unfold readTag? at read
  simp only at read
  split at read
  · cases read
  · cases read
    exact Token.bare_ofKind _ _

/-- The tokens of a text have no bodies. -/
theorem bare_lex (delimiters : Delimiters) (offset : Int) (text : List Char) :
    ∀ token ∈ (lex delimiters offset text).tokens, token.bare = token := by
  induction delimiters, offset, text using lex_induction with
  | nil delimiters offset =>
    rw [lex_nil]
    exact fun token member => by cases member
  | char delimiters offset char rest plain hypothesis =>
    rw [lex_char plain]
    exact List.forall_mem_cons.mpr ⟨rfl, hypothesis⟩
  | tag delimiters offset text token rest next opens read change hypothesis =>
    rw [lex_tag opens read change]
    exact List.forall_mem_cons.mpr ⟨bare_of_readTag? read, hypothesis⟩
  | unclosed delimiters offset text opens read =>
    rw [lex_unclosed opens read]
    exact fun token member => by cases member
  | invalid delimiters offset text token rest opens read change =>
    rw [lex_invalid opens read change]
    exact List.forall_mem_singleton.mpr (bare_of_readTag? read)

namespace Token

theorem bare_annotate (line : HostLine) {tokens : List Token}
    (bare : ∀ token ∈ tokens, token.bare = token) :
    ∀ token ∈ annotate line tokens, token.bare = token := by
  induction tokens generalizing line with
  | nil => exact fun token member => by cases member
  | cons token rest hypothesis =>
    obtain ⟨here, later⟩ := List.forall_mem_cons.mp bare
    exact List.forall_mem_cons.mpr ⟨bare_onLine line token here, hypothesis _ later⟩

/-- What is left of some tokens has no bodies either, with adjacent texts put together. -/
theorem bare_squash_keep {tokens : List Token} (bare : ∀ token ∈ tokens, token.bare = token) :
    ∀ token ∈ squash (keep (strippedIndexes tokens) tokens), token.bare = token := by
  intro token member
  by_cases text : token.isText = true
  · cases token with
    | text _ => rfl
    | _ => cases text
  · have tag : token ∈ (squash (keep (strippedIndexes tokens) tokens)).filter
        fun token => !token.isText := List.mem_filter.mpr ⟨member, by simp [text]⟩
    rw [filter_squash, filter_keep] at tag
    exact bare token (List.mem_filter.mp tag).1

theorem kind_of_not_isSilent {token : Token} (heard : token.isSilent = false) :
    token.kind ≠ .close ∧ token.kind ≠ .comment ∧ token.kind ≠ .delimiters := by
  cases token with
  | interpolation escaped _ => cases escaped <;> simp [kind]
  | block inverted _ _ _ => cases inverted <;> simp [kind]
  | text _ => simp [kind]
  | partialTag _ _ => simp [kind]
  | _ => cases heard

/-! ### Trees -/

/-- **The tree of balanced tokens is faithful** to the template that they account for. -/
theorem faithfulTree_of_nests {template : List Char} {tokens tree : List Token}
    (placed : Placed template tokens) (bare : ∀ token ∈ tokens, token.bare = token)
    (nests : Nests (squash (keep (strippedIndexes tokens) tokens)) tree) :
    FaithfulTree template tokens (strippedIndexes tokens) tree := by
  have order := placed.keep.squash
  have bodiless := bare_squash_keep bare
  have tags := (filter_squash (keep (strippedIndexes tokens) tokens)).trans (filter_keep tokens)
  have runs := squash_eq (keep (strippedIndexes tokens) tokens)
  generalize squash (keep (strippedIndexes tokens) tokens) = flat at *
  refine { ordered := ?_, body := ?_, closing := ?_, text := ?_, heard := ?_, nodes := ?_ }
  · intro siblings level
    obtain ⟨inner, part, within⟩ := level.nests nests
    have inOrder : (inner.map Token.span).Pairwise fun first second =>
        first.stop ≤ second.start :=
      List.pairwise_map.mpr (order.ordered.sublist part.sublist)
    exact List.pairwise_map.mp (inOrder.sublist within.map_span_sublist)
  · intro siblings inverted span body bodyStop level member
    obtain ⟨before, inner, closing, after, rfl, _, within, _, rfl⟩ :=
      level.section_mem nests bodiless member
    obtain ⟨forward, stop, inside⟩ := order.between
    refine ⟨forward, stop, fun node found => ?_⟩
    rw [within.preorder_eq] at found
    obtain ⟨token, visible, rfl⟩ := List.mem_map.mp found
    rw [bare_span]
    exact inside token (List.mem_filter.mp visible).1
  · intro siblings inverted span body bodyStop level member
    obtain ⟨before, inner, closing, after, split, balanced, _, value, start⟩ :=
      level.section_mem nests bodiless member
    obtain ⟨first, middle, last, whole, between⟩ :=
      exists_section_of_filter tags split rfl balanced
    exact ⟨first, middle, closing, last, whole, between, value, start⟩
  · intro siblings span level member
    obtain ⟨inner, part, within⟩ := level.nests nests
    exact order.text span (part.subset (within.mem_of_leaf _ member rfl))
  · intro siblings token level member
    obtain ⟨_, _, within⟩ := level.nests nests
    exact kind_of_not_isSilent (within.isSilent_eq_false token member)
  · rw [nests.preorder_eq, ← runs]
    exact (List.map_congr_left fun token member =>
      bodiless token (List.mem_filter.mp member).1).trans (List.map_id _)

end Token

/-! ### Templates -/

theorem Token.bare_of_tokenize {delimiters : Delimiters} {template : String} {tokens : List Token}
    (tokenized : tokenize delimiters template = .ok tokens) :
    ∀ token ∈ tokens, token.bare = token := by
  obtain ⟨_, _, rfl⟩ := tokenize_eq_ok_iff.mp tokenized
  exact bare_annotate {} (bare_lex delimiters 0 template.toList)

/-- **The tree of a template with tokens is the one that its sections make**: neither stripping
lines nor putting texts together touches a tag. -/
theorem Token.nests_of_tokenize {delimiters : Delimiters} {template : String} {tokens : List Token}
    (tokenized : tokenize delimiters template = .ok tokens) :
    Nests (squash (keep (strippedIndexes tokens) tokens))
      (arrange (strippedIndexes tokens) tokens) := by
  obtain ⟨_, balanced, whole⟩ := tokenize_eq_ok_iff.mp tokenized
  have annotated : Balanced tokens := by
    rw [whole, balanced_iff, openAfter_annotate]
    exact (balanced_iff _).mp balanced
  have left : Balanced (squash (keep (strippedIndexes tokens) tokens)) :=
    (balanced_congr ((filter_squash _).trans (filter_keep _))).mpr annotated
  obtain ⟨tree, nests⟩ := left.exists_nests
  unfold arrange
  rw [nest?_eq_some nests]
  exact nests

/-- **The tree of a template is faithful to it.** -/
theorem parse_faithful {delimiters : Delimiters} {template : String} {tree : List Token}
    (made : parse delimiters template = .ok tree) :
    ∃ reading, Reading.ofTemplate delimiters template = .ok reading ∧
      Token.FaithfulTree template.toList reading.tokens.toList reading.stripped tree := by
  match read : Reading.ofTemplate delimiters template with
  | .error fault =>
    unfold parse at made
    rw [read] at made
    cases made
  | .ok reading =>
    have tokenized := Reading.tokenize_eq read
    obtain ⟨_, balanced, whole⟩ := tokenize_eq_ok_iff.mp tokenized
    obtain ⟨tokens, same, rfl⟩ := parse_eq_ok_iff.mp made
    cases tokenized.symm.trans same
    refine ⟨reading, rfl, ?_⟩
    rw [Reading.stripped_eq read]
    -- neither stripping nor putting texts together touches a tag
    have left : Token.Balanced (Token.squash (Token.keep
        (Token.strippedIndexes reading.tokens.toList) reading.tokens.toList)) := by
      rw [Token.balanced_congr ((Token.filter_squash _).trans (Token.filter_keep _)), whole,
        Token.balanced_iff, Token.openAfter_annotate]
      exact (Token.balanced_iff _).mp balanced
    obtain ⟨tree, nests⟩ := left.exists_nests
    unfold Token.arrange
    rw [Token.nest?_eq_some nests, Option.getD_some]
    refine Token.faithfulTree_of_nests (Token.covers_tokenize tokenized).placed ?_ nests
    rw [whole]
    exact Token.bare_annotate {} (bare_lex delimiters 0 template.toList)

/-- A section with a comment in it, whose tags stand on lines of their own. -/
def Token.nestedTemplate : String :=
  "ab\n\x7b\x7b#s\x7d\x7d\n c\x7b\x7b!\x7d\x7dd" ++
    "\x7b\x7b^t\x7d\x7d\x7b\x7b/t\x7d\x7d\n \x7b\x7b/s\x7d\x7d\n"

theorem parse_faithful_nested :
    ∃ tree, parse .standard Token.nestedTemplate = .ok tree ∧
      (Token.preorder tree).map (fun token => token.span.value) =
        ["ab\n", "s", " c", "d", "t", "\n"] ∧
      ∃ reading, Reading.ofTemplate .standard Token.nestedTemplate = .ok reading ∧
        Token.FaithfulTree Token.nestedTemplate.toList reading.tokens.toList reading.stripped
          tree := by
  have values : (parse .standard Token.nestedTemplate).toOption.map
      (fun tree => (Token.preorder tree).map fun token => token.span.value) =
        some ["ab\n", "s", " c", "d", "t", "\n"] := by decide +kernel
  obtain ⟨tree, made, same⟩ := exists_ok_of_toOption_map values
  exact ⟨tree, made, same, parse_faithful made⟩

end Mustache
