import Mustache.Proofs.Reading

/-!
**A text that stands further on.**

Where a text stands in a template shows in the offsets of its tokens and of its fault, and nowhere
else: neither what is found in it nor what its sections, its lines and its partial tags come to
depends on that.

* `Span.shift`, `Token.shift`, `Lexed.shift`: what stands further on by some characters.
* `lex_shift`: **the tokens of a text that stands further on.**
* `openAfter_shift`, `annotate_shift`: its sections, and the lines of its partial tags.
-/

namespace Mustache

open Lexer

/-- A span that stands further on. -/
def Span.shift (amount : Int) (span : Span) : Span :=
  ⟨span.value, span.start + amount, span.stop + amount⟩

namespace Token

/-- A token that stands further on. It has no body yet, and a partial tag keeps its line. -/
def shift (amount : Int) : Token → Token
  | text span => text (span.shift amount)
  | interpolation escaped span => interpolation escaped (span.shift amount)
  | block inverted span body bodyStop => block inverted (span.shift amount) body bodyStop
  | close span => close (span.shift amount)
  | partialTag span host => partialTag (span.shift amount) host
  | comment span => comment (span.shift amount)
  | delimiters span => delimiters (span.shift amount)

variable (amount : Int) (token : Token)

@[simp] theorem shift_kind : (token.shift amount).kind = token.kind := by
  cases token with
  | interpolation escaped _ => cases escaped <;> rfl
  | block inverted _ _ _ => cases inverted <;> rfl
  | _ => rfl

@[simp] theorem shift_span : (token.shift amount).span = token.span.shift amount := by
  cases token <;> rfl

@[simp] theorem shift_isText : (token.shift amount).isText = token.isText := by
  cases token <;> rfl

@[simp] theorem shift_isInk : (token.shift amount).isInk = token.isInk := by
  cases token <;> rfl

@[simp] theorem shift_isNewline : (token.shift amount).isNewline = token.isNewline := by
  cases token <;> rfl

@[simp] theorem shift_isInterpolation :
    (token.shift amount).isInterpolation = token.isInterpolation := by
  cases token <;> rfl

theorem shift_ofKind (kind : Kind) (span : Span) :
    (ofKind kind span).shift amount = ofKind kind (span.shift amount) := by
  cases kind <;> rfl

theorem shift_onLine (line : HostLine) :
    (token.shift amount).onLine line = (token.onLine line).shift amount := by
  cases token <;> rfl

theorem after_shift (line : HostLine) : line.after (token.shift amount) = line.after token := by
  cases token <;> rfl

theorem delimitersAfter?_shift (delimiters : Delimiters) :
    delimitersAfter? delimiters (token.shift amount) = delimitersAfter? delimiters token := by
  cases token <;> rfl

end Token

/-- What has been found in a text that stands further on. -/
def Lexed.shift (amount : Int) (lexed : Lexed) : Lexed where
  tokens := lexed.tokens.map (Token.shift amount)
  fault := lexed.fault.map fun fault => (fault.1, fault.2 + amount)
  delimiters := lexed.delimiters

theorem Lexed.shift_prepend (amount : Int) (tokens : List Token) (later : Lexed) :
    (later.prepend tokens).shift amount =
      (later.shift amount).prepend (tokens.map (Token.shift amount)) := by
  unfold shift prepend
  rw [List.map_append]

/-! ### Lexing -/

variable {delimiters : Delimiters} {offset : Int}

theorem readTag?_shift (amount : Int) (text : List Char) :
    readTag? delimiters (offset + amount) text =
      (readTag? delimiters offset text).map fun found => (found.1.shift amount, found.2) := by
  have place : ∀ size : Int, offset + amount + size = offset + size + amount := fun size => by
    omega
  unfold readTag?
  simp only [place]
  split
  · rfl
  · rw [Option.map_some, Token.shift_ofKind]
    rfl

/-- **The tokens of a text that stands further on** are its tokens further on, and so is its
fault. -/
theorem lex_shift (amount : Int) (delimiters : Delimiters) (offset : Int) (text : List Char) :
    lex delimiters (offset + amount) text = (lex delimiters offset text).shift amount := by
  induction delimiters, offset, text using lex_induction with
  | nil delimiters offset =>
    rw [lex_nil, lex_nil]
    rfl
  | char delimiters offset char rest plain hypothesis =>
    have place : offset + amount + 1 = offset + 1 + amount := by omega
    have here : charToken char (offset + amount) = (charToken char offset).shift amount :=
      congrArg (fun stop => Token.text ⟨String.singleton char, offset + amount, stop⟩) place
    rw [lex_char plain, lex_char plain, Lexed.shift_prepend, place, hypothesis, here]
    rfl
  | tag delimiters offset text token rest next opens read change hypothesis =>
    have further : readTag? delimiters (offset + amount) text =
        some (token.shift amount, rest) := by
      rw [readTag?_shift, read]
      rfl
    rw [lex_tag opens read change, Lexed.shift_prepend, ← hypothesis,
      lex_tag opens further ((token.delimitersAfter?_shift amount delimiters).trans change),
      Token.shift_span]
    rfl
  | unclosed delimiters offset text opens read =>
    have further : readTag? delimiters (offset + amount) text = none := by
      rw [readTag?_shift, read]
      rfl
    have place : offset + amount + Int.ofNat text.length =
        offset + Int.ofNat text.length + amount := by omega
    rw [lex_unclosed opens read, lex_unclosed opens further, place]
    rfl
  | invalid delimiters offset text token rest opens read change =>
    have further : readTag? delimiters (offset + amount) text =
        some (token.shift amount, rest) := by
      rw [readTag?_shift, read]
      rfl
    rw [lex_invalid opens read change,
      lex_invalid opens further ((token.delimitersAfter?_shift amount delimiters).trans change),
      Token.shift_span]
    rfl

/-! ### Sections and lines -/

namespace Token

variable (amount : Int)

theorem annotate_shift (line : HostLine) (tokens : List Token) :
    annotate line (tokens.map (shift amount)) = (annotate line tokens).map (shift amount) := by
  induction tokens generalizing line with
  | nil => rfl
  | cons token rest hypothesis =>
    rw [List.map_cons, annotate, annotate, List.map_cons, after_shift, shift_onLine, hypothesis]

theorem openAfter_shift (opened : List Span) (tokens : List Token) :
    openAfter (opened.map (Span.shift amount)) (tokens.map (shift amount)) =
      ((openAfter opened tokens).map (List.map (Span.shift amount))).mapError
        fun fault => (fault.1, fault.2 + amount) := by
  induction tokens generalizing opened with
  | nil => rfl
  | cons token rest hypothesis =>
    rw [List.map_cons]
    by_cases mark : token.isSectionMark = true
    · cases token with
      | block inverted span body bodyStop => exact hypothesis (span :: opened)
      | close closing =>
        cases opened with
        | nil => rfl
        | cons innermost outer =>
          by_cases same : innermost.value = closing.value
          · have named : (closing.shift amount).value = (innermost.shift amount).value := same.symm
            rw [openAfter_close same.symm]
            exact (openAfter_close named _).trans (hypothesis outer)
          · rw [openAfter, if_neg same]
            exact if_neg same
      | _ => cases mark
    · have leaf : token.isSectionMark = false := Bool.eq_false_iff.mpr mark
      have further : (token.shift amount).isSectionMark = false := by
        cases token <;> exact leaf
      rw [openAfter_leaf leaf, openAfter_leaf further, hypothesis]

/-- Whether tokens are balanced does not depend on where they stand. -/
theorem Balanced.shift {tokens : List Token} (balanced : Balanced tokens) :
    Balanced (tokens.map (shift amount)) := by
  have whole := openAfter_shift amount [] tokens
  rw [(balanced_iff tokens).mp balanced] at whole
  exact (balanced_iff _).mpr whole

end Token

end Mustache
