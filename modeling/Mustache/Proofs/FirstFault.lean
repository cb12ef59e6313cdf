import Mustache.Proofs.FaithfulTree

/-!
**A template is read if it is balanced, and is refused for its first fault.**

Lexing knows nothing of sections: it stops at the end of the template, at a tag that is not closed,
or at a delimiter tag that names no pair. The sections among the tokens up to there either leave
some sections open or have a first closing tag that fits none. Whichever fault comes first in the
template is the one that is reported.

* `Token.Leaves`: the sections that some tokens leave open, as a grammar; `leaves_iff` ties it to
  the stack.
* `openAfter_eq_error_iff`: the first closing tag that fits no section.
* `lex_fault_cases`: what lexing stops at.
* `FirstFault`: the first fault of a template in the order of its source.
* `parseWith_outcome`: **the main statement.**
-/

namespace Mustache

open Lexer

namespace Token

/-- **Tokens that leave some sections open**, innermost first: balanced stretches with the tags of
these sections between them. -/
inductive Leaves : List Token → List Span → Prop
  | balanced {tokens : List Token} : Balanced tokens → Leaves tokens []
  | block {before inner : List Token} {inverted : Bool} {span : Span} {body : List Token}
      {bodyStop : Int} {outer : List Span} :
      Leaves before outer → Balanced inner →
      Leaves (before ++ Token.block inverted span body bodyStop :: inner) (span :: outer)

variable {tokens : List Token} {opened : List Span}

theorem Leaves.append_balanced (leaves : Leaves tokens opened) {later : List Token}
    (balanced : Balanced later) : Leaves (tokens ++ later) opened := by
  cases leaves with
  | balanced earlier => exact .balanced (earlier.append balanced)
  | block before inner =>
    rw [List.append_assoc, List.cons_append]
    exact .block before (inner.append balanced)

/-- The innermost section is closed by a tag of its name. -/
theorem Leaves.append_close {innermost closing : Span} {outer : List Span}
    (leaves : Leaves tokens (innermost :: outer)) (same : closing.value = innermost.value) :
    Leaves (tokens ++ [close closing]) outer := by
  cases leaves with
  | block before inner =>
    rw [List.append_assoc]
    exact before.append_balanced (.section same inner .nil)

/-- **One more token** behind some that leave sections open. -/
theorem Leaves.step {token : Token} {later : List Span} (leaves : Leaves tokens opened)
    (stack : openAfter opened [token] = .ok later) : Leaves (tokens ++ [token]) later := by
  by_cases mark : token.isSectionMark = true
  · cases token with
    | block inverted span body bodyStop =>
      cases stack
      exact .block leaves .nil
    | close closing =>
      cases opened with
      | nil => cases stack
      | cons innermost outer =>
        rw [openAfter] at stack
        split at stack
        · rename_i same
          cases stack
          exact leaves.append_close same.symm
        · cases stack
    | _ => cases mark
  · have leaf : token.isSectionMark = false := Bool.eq_false_iff.mpr mark
    rw [openAfter_leaf leaf] at stack
    cases stack
    exact leaves.append_balanced (.leaf leaf .nil)

/-- **The stack holds the sections that are left open.** -/
theorem leaves_iff : Leaves tokens opened ↔ openAfter [] tokens = .ok opened := by
  constructor
  · intro leaves
    induction leaves with
    | balanced balanced => exact (balanced_iff _).mp balanced
    | @block before inner inverted span body bodyStop outer _ balanced hypothesis =>
      have inside : openAfter (span :: outer) (inner ++ []) = _ := balanced.openAfter_append []
      rw [List.append_nil] at inside
      rw [openAfter_append, hypothesis]
      exact inside
  · intro stack
    -- from the last token backwards, as the grammar grows at its end
    induction tokens using List.reverseRecOn generalizing opened with
    | nil =>
      cases stack
      exact .balanced .nil
    | append_singleton earlier token hypothesis =>
      rw [openAfter_append] at stack
      cases before : openAfter [] earlier with
      | error fault =>
        rw [before] at stack
        cases stack
      | ok left =>
        rw [before] at stack
        exact (hypothesis before).step stack

/-- **The first closing tag that fits no section**, what is wrong with it, and where it starts:
either no section is open there, or the innermost one has another name. -/
inductive Misfit (tokens : List Token) : SyntaxFault.Reason → Int → Prop
  | unopened {before after : List Token} {closing : Span} :
      tokens = before ++ close closing :: after → Leaves before [] →
      Misfit tokens (.unopenedSection closing.value) closing.start
  | mismatched {before after : List Token} {closing innermost : Span} {outer : List Span} :
      tokens = before ++ close closing :: after → Leaves before (innermost :: outer) →
      innermost.value ≠ closing.value →
      Misfit tokens (.unclosedSection innermost.value) closing.start

theorem Misfit.append {reason : SyntaxFault.Reason} {position : Int}
    (misfit : Misfit tokens reason position) (later : List Token) :
    Misfit (tokens ++ later) reason position := by
  cases misfit with
  | @unopened before after closing split leaves =>
    have whole : tokens ++ later = before ++ close closing :: (after ++ later) := by
      rw [split, List.append_assoc, List.cons_append]
    exact .unopened whole leaves
  | @mismatched before after closing innermost outer split leaves other =>
    have whole : tokens ++ later = before ++ close closing :: (after ++ later) := by
      rw [split, List.append_assoc, List.cons_append]
    exact .mismatched whole leaves other

/-- One more token, which fits no section. -/
theorem Misfit.step {token : Token} {reason : SyntaxFault.Reason} {position : Int}
    (leaves : Leaves tokens opened) (stack : openAfter opened [token] = .error (reason, position)) :
    Misfit (tokens ++ [token]) reason position := by
  cases token with
  | close closing =>
    cases opened with
    | nil =>
      cases stack
      exact .unopened rfl leaves
    | cons innermost outer =>
      rw [openAfter] at stack
      split at stack
      · cases stack
      · rename_i other
        cases stack
        exact .mismatched rfl leaves other
  | _ => cases stack

/-- **The stack stops at the first closing tag that fits no section.** -/
theorem openAfter_eq_error_iff {reason : SyntaxFault.Reason} {position : Int} :
    openAfter [] tokens = .error (reason, position) ↔ Misfit tokens reason position := by
  constructor
  · intro stack
    induction tokens using List.reverseRecOn with
    | nil => cases stack
    | append_singleton earlier token hypothesis =>
      rw [openAfter_append] at stack
      cases before : openAfter [] earlier with
      | error fault =>
        rw [before] at stack
        cases stack
        exact (hypothesis before).append [token]
      | ok left =>
        rw [before] at stack
        exact Misfit.step (leaves_iff.mpr before) stack
  · intro misfit
    cases misfit with
    | unopened split leaves =>
      rw [split, openAfter_append, leaves_iff.mp leaves]
      rfl
    | @mismatched before after closing innermost outer split leaves other =>
      have stop : openAfter (innermost :: outer) (close closing :: after) =
          .error (.unclosedSection innermost.value, closing.start) := by
        rw [openAfter, if_neg other]
      rw [split, openAfter_append, leaves_iff.mp leaves]
      exact stop

end Token

/-! ### What lexing stops at -/

/-- A delimiter tag that names no pair. -/
def Token.Rejected (token : Token) : Prop :=
  ∃ span, token = .delimiters span ∧ Delimiters.ofText? span.value = none

theorem delimitersAfter?_eq_none_iff {delimiters : Delimiters} {token : Token} :
    delimitersAfter? delimiters token = none ↔ token.Rejected := by
  constructor
  · intro change
    cases token with
    | delimiters span => exact ⟨span, rfl, change⟩
    | _ => cases change
  · rintro ⟨span, rfl, refused⟩
    exact refused

/-- **Lexing stops at the end of the text** because a tag is not closed, or behind a delimiter tag
that names no pair, which is the last token then. -/
theorem lex_fault_cases (delimiters : Delimiters) (offset : Int) (text : List Char)
    {reason : SyntaxFault.Reason} {position : Int}
    (stopped : (lex delimiters offset text).fault = some (reason, position)) :
    (reason = .unclosedTag ∧ position = offset + text.length) ∨
      ∃ before span, (lex delimiters offset text).tokens = before ++ [.delimiters span] ∧
        Delimiters.ofText? span.value = none ∧
        reason = .invalidTags (Value.text span.value).shown ∧ position = span.start := by
  induction delimiters, offset, text using lex_induction with
  | nil delimiters offset =>
    rw [lex_nil] at stopped
    cases stopped
  | char delimiters offset char rest plain hypothesis =>
    rw [lex_char plain] at stopped ⊢
    rcases hypothesis stopped with ⟨unclosed, rfl⟩ | ⟨before, span, split, invalid⟩
    · refine Or.inl ⟨unclosed, ?_⟩
      rw [List.length_cons]
      omega
    · refine Or.inr ⟨charToken char offset :: before, span, ?_, invalid⟩
      rw [Lexed.prepend_tokens, split]
      rfl
  | tag delimiters offset text token rest next opens read change hypothesis =>
    rw [lex_tag opens read change] at stopped ⊢
    obtain ⟨source, rfl, _, stop, _⟩ := tagText_of_readTag? opens read
    rcases hypothesis stopped with ⟨unclosed, rfl⟩ | ⟨before, span, split, invalid⟩
    · refine Or.inl ⟨unclosed, ?_⟩
      rw [stop, List.length_append]
      omega
    · refine Or.inr ⟨token :: before, span, ?_, invalid⟩
      rw [Lexed.prepend_tokens, split]
      rfl
  | unclosed delimiters offset text opens read =>
    rw [lex_unclosed opens read] at stopped
    cases stopped
    exact Or.inl ⟨rfl, rfl⟩
  | invalid delimiters offset text token rest opens read change =>
    rw [lex_invalid opens read change] at stopped ⊢
    obtain ⟨span, rfl, refused⟩ := delimitersAfter?_eq_none_iff.mp change
    cases stopped
    exact Or.inr ⟨[], span, rfl, refused, rfl, (readTag?_start read).symm⟩

/-- A delimiter tag that names no pair is a fault at its start. -/
theorem lex_fault_of_rejected (delimiters : Delimiters) (offset : Int) (text : List Char)
    {before : List Token} {span : Span}
    (split : (lex delimiters offset text).tokens = before ++ [.delimiters span])
    (refused : Delimiters.ofText? span.value = none) :
    (lex delimiters offset text).fault =
      some (.invalidTags (Value.text span.value).shown, span.start) := by
  induction delimiters, offset, text using lex_induction generalizing before with
  | nil delimiters offset =>
    rw [lex_nil] at split
    simp at split
  | char delimiters offset char rest plain hypothesis =>
    rw [lex_char plain] at split ⊢
    cases before with
    | nil => cases (List.cons.inj split).1
    | cons first before => exact hypothesis (List.cons.inj split).2
  | tag delimiters offset text token rest next opens read change hypothesis =>
    rw [lex_tag opens read change] at split ⊢
    cases before with
    | nil =>
      rw [(List.cons.inj split).1, delimitersAfter?_eq_none_iff.mpr ⟨span, rfl, refused⟩] at change
      cases change
    | cons first before => exact hypothesis (List.cons.inj split).2
  | unclosed delimiters offset text opens read =>
    rw [lex_unclosed opens read] at split
    simp at split
  | invalid delimiters offset text token rest opens read change =>
    rw [lex_invalid opens read change] at split ⊢
    cases before with
    | nil =>
      obtain ⟨rfl, _⟩ := List.cons.inj split
      rw [← readTag?_start read]
      rfl
    | cons first before => simp at split

/-! ### The first fault -/

/-- **The first fault of a template** in the order of its source, told from what lexing found of it:
a closing tag that fits no section; otherwise what lexing stopped at; and only if it stopped at
nothing, a section that is still open at the end. -/
inductive FirstFault (lexed : Lexed) (size : Nat) : SyntaxFault.Reason → Int → Prop
  | misfit {reason : SyntaxFault.Reason} {position : Int} :
      Token.Misfit lexed.tokens reason position → FirstFault lexed size reason position
  | invalidTags {before : List Token} {span : Span} {opened : List Span} :
      lexed.tokens = before ++ [.delimiters span] → Delimiters.ofText? span.value = none →
      Token.Leaves lexed.tokens opened →
      FirstFault lexed size (.invalidTags (Value.text span.value).shown) span.start
  | unclosedTag {position : Int} {opened : List Span} :
      lexed.fault = some (.unclosedTag, position) → Token.Leaves lexed.tokens opened →
      FirstFault lexed size .unclosedTag size
  | unclosedSection {innermost : Span} {outer : List Span} :
      lexed.fault = none → Token.Leaves lexed.tokens (innermost :: outer) →
      FirstFault lexed size (.unclosedSection innermost.value) size

variable {delimiters : Delimiters}

namespace Reading

/-- What lexing stopped at, after tokens that leave some sections open. -/
theorem firstFault_of_fault {text : List Char} {reason : SyntaxFault.Reason} {position : Int}
    {opened : List Span} (leaves : Token.Leaves (lex delimiters 0 text).tokens opened)
    (stopped : (lex delimiters 0 text).fault = some (reason, position)) :
    FirstFault (lex delimiters 0 text) text.length reason position := by
  rcases lex_fault_cases delimiters 0 text stopped with
    ⟨rfl, rfl⟩ | ⟨before, span, split, refused, rfl, rfl⟩
  · rw [Int.zero_add] at stopped ⊢
    exact .unclosedTag stopped leaves
  · exact .invalidTags split refused leaves

/-- **A reading ends with the first fault.** -/
theorem ofText_eq_error_iff {text : List Char} {reason : SyntaxFault.Reason} {position : Int} :
    ofText delimiters text = .error (reason, position) ↔
      FirstFault (lex delimiters 0 text) text.length reason position := by
  unfold ofText
  rw [read_eq]
  unfold afterLexed
  simp only
  constructor
  · intro failed
    cases checked : Token.openAfter [] (lex delimiters 0 text).tokens with
    | error fault =>
      rw [checked] at failed
      cases failed
      exact .misfit (Token.openAfter_eq_error_iff.mp checked)
    | ok left =>
      have leaves := Token.leaves_iff.mpr checked
      rw [checked] at failed
      cases stopped : (lex delimiters 0 text).fault with
      | some fault =>
        rw [stopped] at failed
        cases failed
        exact firstFault_of_fault leaves stopped
      | none =>
        rw [stopped] at failed
        cases left with
        | nil => cases failed
        | cons innermost outer =>
          cases failed
          exact .unclosedSection stopped leaves
  · intro first
    cases first with
    | misfit misfit => rw [Token.openAfter_eq_error_iff.mpr misfit]
    | invalidTags split refused leaves =>
      rw [Token.leaves_iff.mp leaves, lex_fault_of_rejected delimiters 0 text split refused]
    | unclosedTag stopped leaves =>
      -- where lexing says that it stopped is the end of the text
      rcases lex_fault_cases delimiters 0 text stopped with ⟨_, rfl⟩ | ⟨_, _, _, _, other, _⟩
      · rw [Token.leaves_iff.mp leaves, stopped, Int.zero_add]
      · cases other
    | unclosedSection sound leaves =>
      rw [Token.leaves_iff.mp leaves, sound]
      rfl

theorem ofTemplate_eq_error_iff {template : String} {fault : SyntaxFault} :
    ofTemplate delimiters template = .error fault ↔
      ∃ reason position,
        FirstFault (lex delimiters 0 template.toList) template.length reason position ∧
          fault = .locate reason position (some template) := by
  rw [← String.length_toList]
  unfold ofTemplate
  constructor
  · intro failed
    match read : ofText delimiters template.toList with
    | .ok reading =>
      rw [read] at failed
      cases failed
    | .error (reason, position) =>
      rw [read] at failed
      cases failed
      exact ⟨reason, position, ofText_eq_error_iff.mp read, rfl⟩
  · rintro ⟨reason, position, first, rfl⟩
    rw [ofText_eq_error_iff.mpr first]

end Reading

/-! ### Templates -/

theorem parseWith_eq {tags : Value} (valid : Delimiters.ofValue? tags = some delimiters)
    (template : String) : parseWith tags template = parse delimiters template := by
  unfold parseWith
  by_cases empty : template.isEmpty = true
  · have nothing : template.toList = [] :=
      String.toList_eq_nil_iff.mpr (String.isEmpty_iff.mp empty)
    have tokenized : tokenize delimiters template = .ok [] := by
      refine tokenize_eq_ok_iff.mpr ?_
      rw [nothing, lex_nil]
      exact ⟨rfl, .nil, rfl⟩
    rw [if_pos empty, parse_eq_ok_iff.mpr ⟨[], tokenized, rfl⟩]
    rfl
  · unfold Delimiters.read
    rw [if_neg empty, valid]

/-- A template without a tree is refused for its first fault. -/
theorem parse_eq_error_iff {template : String} {fault : SyntaxFault} :
    parse delimiters template = .error fault ↔
      ∃ reason position,
        FirstFault (lex delimiters 0 template.toList) template.length reason position ∧
          fault = .locate reason position (some template) := by
  rw [← Reading.ofTemplate_eq_error_iff]
  unfold parse
  match Reading.ofTemplate delimiters template with
  | .ok reading => simp [Except.map]
  | .error other => simp [Except.map]

/-- **A template is read if it is balanced, and is refused for its first fault.** A template has a
tree if and only if lexing meets no fault and its sections are balanced; the tree is then the one
that the sections make, and no closing tag is left without a section on the way; and the fault of a
template without a tree is the first one in the order of its source. -/
theorem parseWith_outcome {tags : Value} (valid : Delimiters.ofValue? tags = some delimiters)
    (template : String) :
    ((∃ tree, parseWith tags template = .ok tree) ↔
      (lex delimiters 0 template.toList).fault = none ∧
        Token.Balanced (lex delimiters 0 template.toList).tokens) ∧
    (∀ tree, parseWith tags template = .ok tree →
      ∃ tokens, tokenize delimiters template = .ok tokens ∧
        Token.nest? (Token.squash (Token.keep (Token.strippedIndexes tokens) tokens)) =
          some tree) ∧
    ∀ fault, parseWith tags template = .error fault ↔
      ∃ reason position,
        FirstFault (lex delimiters 0 template.toList) template.length reason position ∧
          fault = .locate reason position (some template) := by
  rw [parseWith_eq valid]
  refine ⟨?_, ?_, ?_⟩
  · constructor
    · rintro ⟨tree, made⟩
      obtain ⟨tokens, tokenized, _⟩ := parse_eq_ok_iff.mp made
      obtain ⟨sound, balanced, _⟩ := tokenize_eq_ok_iff.mp tokenized
      exact ⟨sound, balanced⟩
    · rintro ⟨sound, balanced⟩
      have tokenized := tokenize_eq_ok_iff.mpr ⟨sound, balanced, rfl⟩
      exact ⟨_, parse_eq_ok_iff.mpr ⟨_, tokenized, rfl⟩⟩
  · intro tree made
    obtain ⟨tokens, tokenized, rfl⟩ := parse_eq_ok_iff.mp made
    exact ⟨tokens, tokenized, Token.nest?_eq_some (Token.nests_of_tokenize tokenized)⟩
  · exact fun fault => parse_eq_error_iff

/-- A closing tag of another name, then a delimiter tag that names no pair, then a tag that is not
closed. -/
def Token.faultyTemplate : String := "a\n<|#x|><|/y|><|=z=|><|"

/-- Two delimiters in angle brackets. -/
def Delimiters.angled : Delimiters where
  opening := "<|"
  closing := "|>"
  opening_ne := by decide
  closing_ne := by decide

theorem parseWith_outcome_mismatched :
    Delimiters.ofValue? (.list [.text "<|", .text "|>"]) = some .angled ∧
      ∃ fault, parseWith (.list [.text "<|", .text "|>"]) Token.faultyTemplate = .error fault ∧
        fault.reason = .unclosedSection "x" ∧ fault.position = 8 ∧ fault.place = ⟨2, 7⟩ ∧
        ∃ reason position,
          FirstFault (lex .angled 0 Token.faultyTemplate.toList) Token.faultyTemplate.length
            reason position ∧
          fault = .locate reason position (some Token.faultyTemplate) := by
  have valid : Delimiters.ofValue? (.list [.text "<|", .text "|>"]) = some .angled := by
    decide +kernel
  have shown : (match parseWith (.list [.text "<|", .text "|>"]) Token.faultyTemplate with
      | .ok _ => none
      | .error fault => some fault) = some ⟨.unclosedSection "x", 8, ⟨2, 7⟩⟩ := by decide +kernel
  refine ⟨valid, ⟨.unclosedSection "x", 8, ⟨2, 7⟩⟩, ?_⟩
  match outcome : parseWith (.list [.text "<|", .text "|>"]) Token.faultyTemplate with
  | .ok tree =>
    rw [outcome] at shown
    cases shown
  | .error fault =>
    rw [outcome] at shown
    cases shown
    exact ⟨rfl, rfl, rfl, rfl, ((parseWith_outcome valid _).2.2 _).mp outcome⟩

end Mustache
