import Mathlib.Data.List.Chain
import Mustache.Proofs.Reading
import Mustache.Proofs.TagText

/-!
**The tokens account for the whole template.**

The tokens of a template stand one right after the other from its start to its end. A text token is
one character, at which no opening delimiter begins; any other token is the text of its tag, written
with the delimiters in force there.

* `Token.Covers`: tokens that account for a text from an offset on, one token at a time.
* `covers_lex`: the tokens of a text account for it.
* `Token.Accounts`: the same, said of all tokens at once.
* `tokenize_accounts`: **the main statement.**
-/

namespace Mustache

open Lexer

/-- The characters of a text that a span covers. -/
def Span.slice (text : List Char) (span : Span) : List Char :=
  (text.take span.stop.toNat).drop span.start.toNat

/-- The delimiters in force after some tokens; none if a delimiter tag names no pair. -/
def Delimiters.after? (delimiters : Delimiters) (tokens : List Token) : Option Delimiters :=
  tokens.foldlM delimitersAfter? delimiters

namespace Token

/-- **Tokens that account for a text** from an offset on, with the delimiters in force there. -/
inductive Covers : Delimiters → Int → List Char → List Token → Prop
  | nil (delimiters : Delimiters) (offset : Int) : Covers delimiters offset [] []
  | text {delimiters : Delimiters} {offset : Int} {char : Char} {rest : List Char}
      {tokens : List Token} :
      ¬ delimiters.opening.toList <+: char :: rest → Covers delimiters (offset + 1) rest tokens →
      Covers delimiters offset (char :: rest) (charToken char offset :: tokens)
  | tag {delimiters next : Delimiters} {offset : Int} {token : Token} {source rest : List Char}
      {tokens : List Token} :
      TagText Slack.blanks delimiters token.kind token.span.value.toList source →
      token.span.start = offset → token.span.stop = offset + source.length →
      delimitersAfter? delimiters token = some next → Covers next token.span.stop rest tokens →
      Covers delimiters offset (source ++ rest) (token :: tokens)

/-- **What it means that tokens account for a template.** -/
structure Accounts (slack : Slack) (delimiters : Delimiters) (template : List Char)
    (tokens : List Token) : Prop where
  /-- The first token starts where the template does. -/
  first : ∀ token ∈ tokens.head?, token.span.start = 0
  /-- Each further token starts where the one before it stops. -/
  contiguous : tokens.IsChain fun token other => other.span.start = token.span.stop
  /-- The last token stops where the template does. -/
  last : ∀ token ∈ tokens.getLast?, token.span.stop = template.length
  /-- No token is empty. -/
  nonempty : ∀ token ∈ tokens, token.span.start < token.span.stop
  /-- What the tokens cover makes up the template. -/
  whole : (tokens.flatMap fun token => token.span.slice template) = template
  /-- A text token is one character, at which no opening delimiter begins. -/
  character : ∀ before span after, tokens = before ++ text span :: after →
    ∃ inForce, delimiters.after? before = some inForce ∧ span.stop = span.start + 1 ∧
      span.value.toList = span.slice template ∧
      ¬ inForce.opening.toList <+: template.drop span.start.toNat
  /-- Any other token is the text of its tag. -/
  tag : ∀ before token after, tokens = before ++ token :: after → token.isText = false →
    ∃ inForce, delimiters.after? before = some inForce ∧
      TagText slack inForce token.kind token.span.value.toList (token.span.slice template)

end Token

/-! ### The texts of tags -/

namespace TagText

variable {slack : Slack} {delimiters : Delimiters} {kind : Token.Kind} {content source : List Char}

theorem opening_prefix (tag : TagText slack delimiters kind content source) :
    delimiters.opening.toList <+: source := by
  cases tag <;> exact List.prefix_append _ _

theorem source_pos (tag : TagText slack delimiters kind content source) : 0 < source.length := by
  have bound := tag.opening_prefix.length_le
  have some := List.length_pos_iff.mpr delimiters.opening_toList_ne
  omega

theorem kind_ne_text (tag : TagText slack delimiters kind content source) : kind ≠ .text := by
  cases tag with
  | plain sort _ _ _ _ => cases sort <;> exact fun same => by cases same
  | braced _ _ _ _ _ _ => exact fun same => by cases same
  | change _ _ _ _ _ _ _ _ => exact fun same => by cases same

end TagText

theorem Token.isText_iff (token : Token) : token.isText = true ↔ token.kind = .text := by
  cases token with
  | interpolation escaped _ => cases escaped <;> simp [isText, kind]
  | block inverted _ _ _ => cases inverted <;> simp [isText, kind]
  | _ => simp [isText, kind]

/-! ### One token after the other -/

/-- **The tokens of a text account for it.** -/
theorem covers_lex (delimiters : Delimiters) (offset : Int) (text : List Char)
    (sound : (lex delimiters offset text).fault = none) :
    Token.Covers delimiters offset text (lex delimiters offset text).tokens := by
  induction delimiters, offset, text using lex_induction with
  | nil delimiters offset =>
    rw [lex_nil]
    exact .nil delimiters offset
  | char delimiters offset char rest plain hypothesis =>
    rw [lex_char plain] at sound ⊢
    exact .text plain (hypothesis sound)
  | tag delimiters offset text token rest next opens read change hypothesis =>
    rw [lex_tag opens read change] at sound ⊢
    obtain ⟨source, rfl, start, stop, tag⟩ := tagText_of_readTag? opens read
    exact .tag tag start stop change (hypothesis sound)
  | unclosed delimiters offset text opens read =>
    rw [lex_unclosed opens read] at sound
    cases sound
  | invalid delimiters offset text token rest opens read change =>
    rw [lex_invalid opens read change] at sound
    cases sound

namespace Token

variable {delimiters : Delimiters} {offset : Int} {text : List Char} {tokens : List Token}

theorem delimitersAfter?_onLine (line : HostLine) (token : Token) :
    delimitersAfter? delimiters (token.onLine line) = delimitersAfter? delimiters token := by
  cases token <;> rfl

theorem after?_annotate (delimiters : Delimiters) (line : HostLine) (tokens : List Token) :
    delimiters.after? (annotate line tokens) = delimiters.after? tokens := by
  unfold Delimiters.after?
  induction tokens generalizing delimiters line with
  | nil => rfl
  | cons token rest hypothesis =>
    rw [annotate, List.foldlM_cons, List.foldlM_cons, delimitersAfter?_onLine]
    exact congrArg _ (funext fun next => hypothesis next _)

/-- The lines of partial tags do not bear on it. -/
theorem Covers.annotate (covers : Covers delimiters offset text tokens) (line : HostLine) :
    Covers delimiters offset text (annotate line tokens) := by
  induction covers generalizing line with
  | nil delimiters offset => exact .nil delimiters offset
  | text plain _ hypothesis => exact .text plain (hypothesis _)
  | tag tag start stop change _ hypothesis =>
    refine .tag ?_ ?_ ?_ ((delimitersAfter?_onLine _ _).trans change) ?_
    · rw [onLine_kind, onLine_span]
      exact tag
    · rw [onLine_span]
      exact start
    · rw [onLine_span]
      exact stop
    · rw [onLine_span]
      exact hypothesis _

/-- The tokens of a template account for it. -/
theorem covers_tokenize {template : String} (read : tokenize delimiters template = .ok tokens) :
    Covers delimiters 0 template.toList tokens := by
  obtain ⟨sound, _, rfl⟩ := tokenize_eq_ok_iff.mp read
  exact (covers_lex delimiters 0 template.toList sound).annotate {}

namespace Covers

/-- The first token starts at the offset. -/
theorem head_start (covers : Covers delimiters offset text tokens) :
    ∀ token ∈ tokens.head?, token.span.start = offset := by
  intro token member
  cases covers with
  | nil => cases member
  | text plain _ =>
    cases member
    rfl
  | tag _ start _ _ _ =>
    cases member
    exact start

/-- **The tokens stand one right after the other.** -/
theorem isChain (covers : Covers delimiters offset text tokens) :
    tokens.IsChain fun token other => other.span.start = token.span.stop := by
  induction covers with
  | nil => exact .nil
  | text _ later hypothesis => exact List.isChain_cons.mpr ⟨later.head_start, hypothesis⟩
  | tag _ _ _ _ later hypothesis => exact List.isChain_cons.mpr ⟨later.head_start, hypothesis⟩

/-- **Some tokens and those behind them**: each part accounts for its part of the text. -/
theorem split {before after : List Token}
    (covers : Covers delimiters offset text (before ++ after)) :
    ∃ passed rest inForce, text = passed ++ rest ∧ delimiters.after? before = some inForce ∧
      Covers inForce (offset + passed.length) rest after := by
  induction before generalizing delimiters offset text with
  | nil => exact ⟨[], text, delimiters, rfl, rfl, by simpa using covers⟩
  | cons token before hypothesis =>
    cases covers with
    | @text _ _ char rest _ plain later =>
      obtain ⟨passed, behind, inForce, rfl, force, left⟩ := hypothesis later
      refine ⟨char :: passed, behind, inForce, rfl, force, ?_⟩
      have place : offset + ((char :: passed).length : Int) = offset + 1 + passed.length := by
        rw [List.length_cons]
        omega
      rw [place]
      exact left
    | @tag _ next _ _ source rest _ _ _ stop change later =>
      obtain ⟨passed, behind, inForce, rfl, force, left⟩ := hypothesis later
      refine ⟨source ++ passed, behind, inForce, (List.append_assoc _ _ _).symm, ?_, ?_⟩
      · unfold Delimiters.after? at force ⊢
        rw [List.foldlM_cons, change]
        exact force
      · have place : offset + ((source ++ passed).length : Int) =
            token.span.stop + passed.length := by
          rw [stop, List.length_append]
          omega
        rw [place]
        exact left

/-- **No token is empty**, and each lies within the text. -/
theorem bounds (covers : Covers delimiters offset text tokens) :
    ∀ token ∈ tokens, offset ≤ token.span.start ∧ token.span.start < token.span.stop ∧
      token.span.stop ≤ offset + text.length := by
  induction covers with
  | nil => exact fun token member => by cases member
  | @text delimiters offset char rest tokens _ _ hypothesis =>
    intro token member
    rw [List.length_cons]
    rcases List.mem_cons.mp member with rfl | inside
    · change offset ≤ offset ∧ offset < offset + 1 ∧ offset + 1 ≤ _
      omega
    · have later := hypothesis token inside
      omega
  | tag tag start stop _ _ hypothesis =>
    intro token member
    have pos := tag.source_pos
    rw [List.length_append]
    rcases List.mem_cons.mp member with rfl | inside
    · omega
    · have later := hypothesis token inside
      omega

/-- **The tokens lie apart from each other**, in the order of the text. -/
theorem pairwise (covers : Covers delimiters offset text tokens) :
    tokens.Pairwise fun token other => token.span.stop ≤ other.span.start := by
  induction covers with
  | nil => exact .nil
  | text _ later hypothesis =>
    exact .cons (fun token member => (later.bounds token member).1) hypothesis
  | tag _ _ _ _ later hypothesis =>
    exact .cons (fun token member => (later.bounds token member).1) hypothesis

/-- The last token stops where the text does. -/
theorem getLast_stop (covers : Covers delimiters offset text tokens) :
    ∀ token ∈ tokens.getLast?, token.span.stop = offset + text.length := by
  intro token member
  obtain ⟨before, rfl⟩ := List.getLast?_eq_some_iff.mp member
  obtain ⟨passed, rest, inForce, rfl, _, left⟩ := covers.split
  rw [List.length_append]
  cases left with
  | @text _ _ char _ _ _ later =>
    cases later
    show offset + passed.length + 1 = _
    rw [List.length_singleton]
    omega
  | tag _ _ stop _ later =>
    cases later
    rw [stop, List.append_nil]
    omega

end Covers

end Token

/-! ### What the tokens cover -/

/-- What stands between two others is covered by the span between their ends. -/
theorem Span.slice_append {span : Span} {passed source rest : List Char}
    (start : span.start = passed.length) (stop : span.stop = passed.length + source.length) :
    span.slice (passed ++ (source ++ rest)) = source := by
  have first : span.start.toNat = passed.length := by omega
  have second : span.stop.toNat = (passed ++ source).length := by
    rw [List.length_append]
    omega
  unfold slice
  rw [first, second, ← List.append_assoc, List.take_left, List.drop_left]

namespace Token

variable {delimiters : Delimiters} {template : List Char} {tokens : List Token}

/-- **What the tokens cover makes up the text**, whatever stands before it. -/
theorem Covers.flatMap_slice {offset : Int} {text : List Char}
    (covers : Covers delimiters offset text tokens) (passed : List Char)
    (place : offset = passed.length) :
    (tokens.flatMap fun token => token.span.slice (passed ++ text)) = text := by
  induction covers generalizing passed with
  | nil => rfl
  | @text delimiters offset char rest tokens _ _ hypothesis =>
    have here : (charToken char offset).span.slice (passed ++ ([char] ++ rest)) = [char] :=
      Span.slice_append place (by rw [← place]; rfl)
    have later := hypothesis (passed ++ [char]) (by rw [List.length_append, place]; rfl)
    rw [List.append_assoc] at later
    rw [List.flatMap_cons, ← List.singleton_append, here, later]
  | @tag delimiters next offset token source rest tokens _ start stop _ _ hypothesis =>
    have here : token.span.slice (passed ++ (source ++ rest)) = source :=
      Span.slice_append (start.trans place) (by rw [← place]; exact stop)
    have later := hypothesis (passed ++ source)
      (by rw [List.length_append, stop, place]; rfl)
    rw [List.append_assoc] at later
    rw [List.flatMap_cons, here, later]

/-- One token of those that account for a template. -/
theorem Covers.at {before after : List Token} {token : Token}
    (covers : Covers delimiters 0 template (before ++ token :: after)) :
    ∃ inForce, delimiters.after? before = some inForce ∧
      ((∃ char, token = charToken char token.span.start ∧ token.span.slice template = [char] ∧
          ¬ inForce.opening.toList <+: template.drop token.span.start.toNat) ∨
        TagText Slack.blanks inForce token.kind token.span.value.toList
          (token.span.slice template)) := by
  obtain ⟨passed, rest, inForce, rfl, force, left⟩ := covers.split
  rw [Int.zero_add] at left
  refine ⟨inForce, force, ?_⟩
  cases left with
  | @text _ _ char rest _ plain later =>
    refine Or.inl ⟨char, rfl, @Span.slice_append _ passed [char] rest rfl rfl, ?_⟩
    show ¬ _ <+: (passed ++ char :: rest).drop (passed.length : Int).toNat
    rw [Int.toNat_natCast, List.drop_left]
    exact plain
  | tag tag start stop change later =>
    rw [Span.slice_append start stop]
    exact Or.inr tag

/-- **A text token** is one character, at which no opening delimiter begins. -/
theorem Covers.at_text {before after : List Token} {span : Span}
    (covers : Covers delimiters 0 template (before ++ .text span :: after)) :
    ∃ inForce char, delimiters.after? before = some inForce ∧
      span.value = String.singleton char ∧ span.stop = span.start + 1 ∧
      span.slice template = [char] ∧
      ¬ inForce.opening.toList <+: template.drop span.start.toNat := by
  obtain ⟨inForce, force, ⟨char, same, slice, plain⟩ | tag⟩ := covers.at
  · exact ⟨inForce, char, force, congrArg (fun token => token.span.value) same,
      congrArg (fun token => token.span.stop) same, slice, plain⟩
  · exact (tag.kind_ne_text rfl).elim

end Token

/-- **The tokens account for the whole template.** Blanks may stand between what ends the content of
a tag and its closing delimiter, but only where that starts with a blank itself. -/
theorem tokenize_accounts {delimiters : Delimiters} {template : String} {tokens : List Token}
    (read : tokenize delimiters template = .ok tokens) :
    Token.Accounts Slack.blanks delimiters template.toList tokens := by
  have covers := Token.covers_tokenize read
  refine {
    first := covers.head_start
    contiguous := covers.isChain
    last := fun token member => by rw [covers.getLast_stop token member, Int.zero_add]
    nonempty := fun token member => (covers.bounds token member).2.1
    whole := covers.flatMap_slice [] rfl
    character := ?_
    tag := ?_ }
  · rintro before span after rfl
    obtain ⟨inForce, char, force, value, stop, slice, plain⟩ := covers.at_text
    refine ⟨inForce, force, stop, ?_, plain⟩
    rw [value, String.toList_singleton, slice]
  · rintro before token after rfl other
    obtain ⟨inForce, force, ⟨char, same, _, _⟩ | tag⟩ := covers.at
    · rw [same] at other
      cases other
    · exact ⟨inForce, force, tag⟩

/-- A variable in three braces, and a section behind a delimiter tag. -/
def Token.coveredTemplate : String :=
  "a\x7b\x7b\x7b b \x7d\x7d\x7d\x7b\x7b=| |= \x7d\x7d\x7b\x7b\n|#c||/ c|"

theorem tokenize_accounts_sample :
    ∃ tokens, tokenize .standard Token.coveredTemplate = .ok tokens ∧
      tokens.map Token.kind = [.text, .unescaped, .delimiters, .text, .text, .text,
        .plainSection, .close] ∧
      Token.Accounts Slack.blanks .standard Token.coveredTemplate.toList tokens := by
  have kinds : (tokenize .standard Token.coveredTemplate).toOption.map (List.map Token.kind) =
      some [.text, .unescaped, .delimiters, .text, .text, .text, .plainSection, .close] := by
    decide +kernel
  obtain ⟨tokens, read, same⟩ := exists_ok_of_toOption_map kinds
  exact ⟨tokens, read, same, tokenize_accounts read⟩

/-! ### Closing delimiters that start with a blank -/

/-- A closing delimiter that starts with a blank. -/
def Delimiters.blankClosing : Delimiters := ⟨"<", "  ", by decide, by decide⟩

/-- A closing brace with three blanks behind it does not stand right before a closing delimiter of
two blanks. -/
theorem TagText.braced_ne {kind : Token.Kind} {content source : List Char}
    (tag : TagText Slack.none .blankClosing kind content source) (unescaped : kind = .unescaped)
    (name : content = ['a']) : source ≠ ['<', '\x7b', 'a', '\x7d', ' ', ' ', ' '] := by
  have black : Text.isBlank '\x7b' = false ∧ Text.isBlank 'a' = false ∧
      Text.isBlank '\x7d' = false := by decide +kernel
  intro same
  cases tag with
  | plain sort gaps _ _ _ =>
    have marked : sort = .unescaped := by
      cases sort with
      | unescaped => rfl
      | _ => cases unescaped
    subst marked
    have inside := (List.cons.inj same).2
    rw [gaps.beforeSigil.property.eq_nil (inside ▸ Text.inkFirst_cons black.1 _)] at inside
    cases inside
  | braced gaps _ between _ _ none =>
    subst name
    have inside := (List.cons.inj same).2
    rw [gaps.beforeSigil.property.eq_nil (inside ▸ Text.inkFirst_cons black.1 _)] at inside
    have behind := (List.cons.inj inside).2
    rw [gaps.afterSigil.property.eq_nil (behind ▸ Text.inkFirst_cons black.2.1 _)] at behind
    have closing := (List.cons.inj behind).2
    change gaps.afterContent.val ++ '\x7d' :: _ = _ at closing
    rw [gaps.afterContent.property.eq_nil (closing ▸ Text.inkFirst_cons black.2.2 _), none]
      at closing
    cases closing
  | change _ _ _ _ _ _ _ _ => cases unescaped

/-- **Blanks may stand before a closing delimiter** that starts with a blank: of three blanks behind
a closing brace, the last two are the delimiter. -/
theorem not_accounts_none : ¬ ∀ (delimiters : Delimiters) (template : String) tokens,
    tokenize delimiters template = .ok tokens →
      Token.Accounts Slack.none delimiters template.toList tokens := by
  intro all
  have shape : (tokenize .blankClosing "<\x7ba\x7d   ").toOption.map
      (List.map fun token => (token.kind, token.span)) = some [(.unescaped, ⟨"a", 0, 7⟩)] := by
    decide +kernel
  obtain ⟨tokens, read, shown⟩ := exists_ok_of_toOption_map shape
  obtain ⟨token, rfl, same⟩ := List.map_eq_singleton_iff.mp shown
  obtain ⟨kind, span⟩ := Prod.mk.inj same
  have tagged : token.isText = false := by
    rw [Bool.eq_false_iff, ne_eq, Token.isText_iff, kind]
    decide
  obtain ⟨inForce, force, tag⟩ := (all _ _ _ read).tag [] token [] rfl tagged
  cases force
  refine tag.braced_ne kind ?_ ?_
  · rw [span]
    decide
  · rw [span]
    decide

end Mustache
