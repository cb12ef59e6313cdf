import Mustache.Proofs.Matching

/-!
**Lexing, one step at a time.**

Lexing goes forward by one character of plain text or by one tag. There is an equation for each of
the things that can happen at a place, and an induction along them.

* `lex_nil`, `lex_char`, `lex_tag`, `lex_unclosed`, `lex_invalid`: the steps.
* `lex_induction`: what is preserved by each step holds of all texts.
* `lex_skip`: a run of plain text.
* `readTag?_eq`: a tag from its parts.
* `exists_char_of_mem`, `join_textTokens`: the tokens of a text.
-/

namespace Mustache

open Lexer

theorem Delimiters.opening_toList_ne (delimiters : Delimiters) : delimiters.opening.toList ≠ [] :=
  fun empty => delimiters.opening_ne (String.toList_eq_nil_iff.mp empty)

theorem Delimiters.closing_toList_ne (delimiters : Delimiters) : delimiters.closing.toList ≠ [] :=
  fun empty => delimiters.closing_ne (String.toList_eq_nil_iff.mp empty)

namespace Lexed

@[simp] theorem prepend_tokens (tokens : List Token) (later : Lexed) :
    (later.prepend tokens).tokens = tokens ++ later.tokens := rfl

@[simp] theorem prepend_fault (tokens : List Token) (later : Lexed) :
    (later.prepend tokens).fault = later.fault := rfl

@[simp] theorem prepend_delimiters (tokens : List Token) (later : Lexed) :
    (later.prepend tokens).delimiters = later.delimiters := rfl

theorem prepend_prepend (first second : List Token) (later : Lexed) :
    (later.prepend second).prepend first = later.prepend (first ++ second) := by
  unfold prepend
  rw [List.append_assoc]

end Lexed

/-- The token of one character of plain text. -/
def Lexer.charToken (char : Char) (offset : Int) : Token :=
  .text ⟨String.singleton char, offset, offset + 1⟩

variable {delimiters : Delimiters} {offset : Int}

/-- Lexing from the next opening delimiter on. -/
theorem lex_step (text : List Char) :
    lex delimiters offset text =
      let parts := delimiters.openingPattern.scanUntil text
      let characters := textTokens offset parts.1
      if parts.2.isEmpty then ⟨characters, none, delimiters⟩
      else
        match readTag? delimiters (offset + Int.ofNat parts.1.length) parts.2 with
        | none => ⟨characters, some (.unclosedTag, offset + Int.ofNat text.length), delimiters⟩
        | some (token, rest) =>
          match delimitersAfter? delimiters token with
          | none =>
            let reason := .invalidTags (Value.text token.span.value).shown
            ⟨characters ++ [token], some (reason, offset + Int.ofNat parts.1.length), delimiters⟩
          | some next => (lex next token.span.stop rest).prepend (characters ++ [token]) := by
  rw [lex]
  simp only
  by_cases ended : (delimiters.openingPattern.scanUntil text).2.isEmpty = true
  · rw [if_pos ended, if_pos ended]
  · rw [if_neg ended, if_neg ended]
    split
    · rename_i unread
      rw [unread]
    · rename_i token rest tag
      exact tag ▸ rfl

/-! ### The steps -/

theorem scanUntil_plain {char : Char} {rest : List Char}
    (plain : ¬ delimiters.opening.toList <+: char :: rest) :
    delimiters.openingPattern.scanUntil (char :: rest) =
      (char :: (delimiters.openingPattern.scanUntil rest).1,
        (delimiters.openingPattern.scanUntil rest).2) := by
  have miss : delimiters.openingPattern.hits (char :: rest) = false :=
    Bool.eq_false_iff.mpr fun hit => plain (Pattern.hits_opening.mp hit)
  rw [Pattern.scanUntil, miss, if_neg Bool.false_ne_true]

theorem lex_nil : lex delimiters offset [] = ⟨[], none, delimiters⟩ := by
  rw [lex_step]
  rfl

/-- **One character of plain text.** -/
theorem lex_char {char : Char} {rest : List Char}
    (plain : ¬ delimiters.opening.toList <+: char :: rest) :
    lex delimiters offset (char :: rest) =
      (lex delimiters (offset + 1) rest).prepend [charToken char offset] := by
  have shift : ∀ count : Nat,
      offset + Int.ofNat (count + 1) = offset + 1 + Int.ofNat count := fun count => by
    simp only [Int.ofNat_eq_natCast]
    omega
  rw [lex_step, lex_step, scanUntil_plain plain]
  simp only [List.length_cons, textTokens, shift]
  split
  · rfl
  · split
    · rfl
    · split
      · rfl
      · rw [Lexed.prepend_prepend]
        rfl

section Tag

variable {text : List Char} (opens : delimiters.opening.toList <+: text)

include opens

theorem scanUntil_opens : delimiters.openingPattern.scanUntil text = ([], text) :=
  Pattern.scanUntil_hit (Pattern.hits_opening.mpr opens)

theorem isEmpty_of_opens : text.isEmpty = false := by
  obtain ⟨rest, rfl⟩ := opens
  rw [List.isEmpty_eq_false_iff]
  intro empty
  exact delimiters.opening_toList_ne (List.append_eq_nil_iff.mp empty).1

/-- Lexing at an opening delimiter. -/
theorem lex_opens :
    lex delimiters offset text =
      match readTag? delimiters offset text with
      | none => ⟨[], some (.unclosedTag, offset + Int.ofNat text.length), delimiters⟩
      | some (token, rest) =>
        match delimitersAfter? delimiters token with
        | none =>
          ⟨[token], some (.invalidTags (Value.text token.span.value).shown, offset), delimiters⟩
        | some next => (lex next token.span.stop rest).prepend [token] := by
  have start : offset + Int.ofNat ([] : List Char).length = offset := Int.add_zero offset
  rw [lex_step, scanUntil_opens opens]
  simp only [isEmpty_of_opens opens, Bool.false_eq_true, if_false, start, textTokens,
    List.nil_append]

/-- **One tag.** -/
theorem lex_tag {token : Token} {rest : List Char} {next : Delimiters}
    (read : readTag? delimiters offset text = some (token, rest))
    (change : delimitersAfter? delimiters token = some next) :
    lex delimiters offset text = (lex next token.span.stop rest).prepend [token] := by
  rw [lex_opens opens, read]
  simp only
  rw [change]

/-- A tag that is not closed. -/
theorem lex_unclosed (read : readTag? delimiters offset text = none) :
    lex delimiters offset text =
      ⟨[], some (.unclosedTag, offset + Int.ofNat text.length), delimiters⟩ := by
  rw [lex_opens opens, read]

/-- A delimiter tag that names no pair. -/
theorem lex_invalid {token : Token} {rest : List Char}
    (read : readTag? delimiters offset text = some (token, rest))
    (change : delimitersAfter? delimiters token = none) :
    lex delimiters offset text =
      ⟨[token], some (.invalidTags (Value.text token.span.value).shown, offset), delimiters⟩ := by
  rw [lex_opens opens, read]
  simp only
  rw [change]

end Tag

/-! ### The parts of a tag -/

theorem readSigil_mem {char : Char} {rest : List Char} (member : char ∈ Pattern.sigils) :
    readSigil (char :: rest) = (some char, rest) := by
  have size : Pattern.sigil.matchLength? (char :: rest) = some 1 :=
    if_pos (List.contains_iff_mem.mpr member)
  unfold readSigil
  rw [Pattern.scan_eq size]
  rfl

/-- A text that does not start with a sigil. -/
def Lexer.Unsigned (text : List Char) : Prop := ∀ char ∈ text.head?, char ∉ Pattern.sigils

instance (text : List Char) : Decidable (Unsigned text) :=
  Option.decidableForallMem (p := fun char => char ∉ Pattern.sigils) text.head?

theorem readSigil_none {text : List Char} (plain : Unsigned text) :
    readSigil text = (none, text) := by
  cases text with
  | nil => rfl
  | cons char rest =>
    have none : Pattern.sigil.matchLength? (char :: rest) = none :=
      if_neg fun found => plain char rfl (List.contains_iff_mem.mp found)
    unfold readSigil Pattern.scan
    rw [none]
    rfl

/-- A content in braces: the closing brace is passed over, and the closing delimiter is found right
behind it. -/
theorem readContent_braced {text content gap following : List Char}
    (search : delimiters.closingBracePattern.scanUntil text =
      (content, gap ++ '\x7d' :: (delimiters.closing.toList ++ following)))
    (blank : Text.Blank gap) :
    readContent delimiters (some '\x7b') text =
      (content, delimiters.closing.toList ++ following) := by
  have pass : Pattern.closingBrace.scan
      (gap ++ '\x7d' :: (delimiters.closing.toList ++ following)) =
        (gap ++ ['\x7d'], delimiters.closing.toList ++ following) :=
    Pattern.scan_mark _ (by decide +kernel) blank
  have stay : delimiters.closingPattern.scanUntil (delimiters.closing.toList ++ following) =
      ([], delimiters.closing.toList ++ following) :=
    Pattern.scanUntil_hit (Pattern.hits_closing_here _ following)
  unfold readContent
  simp only [search, pass, stay]

/-- The content of a delimiter tag: the second equals sign is passed over, and the closing delimiter
is looked for behind it. -/
theorem readContent_change {text content gap following : List Char}
    (search : Pattern.equalsSign.scanUntil text = (content, gap ++ '=' :: following))
    (blank : Text.Blank gap) :
    readContent delimiters (some '=') text =
      (content, (delimiters.closingPattern.scanUntil following).2) := by
  have pass : Pattern.equalsSign.scan (gap ++ '=' :: following) = (gap ++ ['='], following) :=
    Pattern.scan_mark following (by decide +kernel) blank
  unfold readContent
  simp only [search, pass]

/-- **A tag from its parts**: the sigil behind the opening delimiter, the content behind the sigil,
and the closing delimiter. -/
theorem readTag?_eq {inside afterSigil content beforeClosing : List Char} {sigil : Option Char}
    {size : Nat} (sort : readSigil (Text.afterBlanks inside) = (sigil, afterSigil))
    (read : readContent delimiters sigil (Text.afterBlanks afterSigil) = (content, beforeClosing))
    (closes : delimiters.closingPattern.matchLength? beforeClosing = some size) :
    readTag? delimiters offset (delimiters.opening.toList ++ inside) =
      some (.ofKind (kindOf sigil) ⟨String.ofList content, offset,
        offset + Int.ofNat ((delimiters.opening.toList ++ inside).length -
          (beforeClosing.drop size).length)⟩, beforeClosing.drop size) := by
  have opened : (delimiters.openingPattern.scan (delimiters.opening.toList ++ inside)).2 =
      Text.afterBlanks inside := by
    unfold Delimiters.openingPattern
    rw [Pattern.scan_opening]
  unfold readTag?
  simp only [opened, sort, read, closes]

/-- A tag starts where it is read. -/
theorem readTag?_start {text rest : List Char} {token : Token}
    (read : readTag? delimiters offset text = some (token, rest)) : token.span.start = offset := by
  unfold readTag? at read
  simp only at read
  split at read
  · cases read
  · cases read
    unfold Token.ofKind
    split <;> rfl

/-! ### Along the steps -/

/-- **What each step preserves holds of all texts.** -/
theorem lex_induction {motive : Delimiters → Int → List Char → Prop}
    (nil : ∀ delimiters offset, motive delimiters offset [])
    (char : ∀ (delimiters : Delimiters) offset char rest,
      ¬ delimiters.opening.toList <+: char :: rest →
      motive delimiters (offset + 1) rest → motive delimiters offset (char :: rest))
    (tag : ∀ (delimiters : Delimiters) offset text token rest next,
      delimiters.opening.toList <+: text →
      readTag? delimiters offset text = some (token, rest) →
      delimitersAfter? delimiters token = some next →
      motive next token.span.stop rest → motive delimiters offset text)
    (unclosed : ∀ (delimiters : Delimiters) offset text,
      delimiters.opening.toList <+: text → readTag? delimiters offset text = none →
      motive delimiters offset text)
    (invalid : ∀ (delimiters : Delimiters) offset text token rest,
      delimiters.opening.toList <+: text →
      readTag? delimiters offset text = some (token, rest) →
      delimitersAfter? delimiters token = none → motive delimiters offset text)
    (delimiters : Delimiters) (offset : Int) (text : List Char) :
    motive delimiters offset text := by
  by_cases opens : delimiters.opening.toList <+: text
  · match read : readTag? delimiters offset text with
    | none => exact unclosed _ _ _ opens read
    | some (token, rest) =>
      have shorter := readTag?_length read
      match change : delimitersAfter? delimiters token with
      | none => exact invalid _ _ _ _ _ opens read change
      | some next =>
        exact tag _ _ _ _ _ _ opens read change
          (lex_induction nil char tag unclosed invalid next token.span.stop rest)
  · match text with
    | [] => exact nil _ _
    | first :: rest =>
      exact char _ _ _ _ opens
        (lex_induction nil char tag unclosed invalid delimiters (offset + 1) rest)
termination_by text.length

/-- **A run of plain text**: no opening delimiter begins within it. -/
theorem lex_skip {run following : List Char}
    (plain : Text.Absent delimiters.opening.toList run following) :
    lex delimiters offset (run ++ following) =
      (lex delimiters (offset + Int.ofNat run.length) following).prepend
        (textTokens offset run) := by
  induction run generalizing offset with
  | nil =>
    have start : offset + Int.ofNat ([] : List Char).length = offset := Int.add_zero offset
    rw [start, List.nil_append]
    rfl
  | cons char rest hypothesis =>
    have here := plain (char :: rest) List.suffix_rfl (List.cons_ne_nil _ _)
    have later := @hypothesis (offset + 1) fun part suffix some =>
      plain part (suffix.trans (List.suffix_cons _ _)) some
    have shift : offset + 1 + Int.ofNat rest.length = offset + Int.ofNat (rest.length + 1) := by
      simp only [Int.ofNat_eq_natCast]
      omega
    rw [List.cons_append] at here ⊢
    rw [lex_char here, later, Lexed.prepend_prepend, shift]
    rfl

/-! ### The tokens of a text -/

namespace Lexer

/-- The tokens of a text are those of its characters. -/
theorem exists_char_of_mem {offset : Int} {run : List Char} {token : Token}
    (member : token ∈ textTokens offset run) :
    ∃ char ∈ run, ∃ place, token = charToken char place := by
  induction run generalizing offset with
  | nil => cases member
  | cons first rest hypothesis =>
    rcases List.mem_cons.mp member with rfl | inside
    · exact ⟨first, List.mem_cons_self, offset, rfl⟩
    · obtain ⟨char, found, place, same⟩ := hypothesis inside
      exact ⟨char, List.mem_cons_of_mem _ found, place, same⟩

theorem exists_mem_of_char {char : Char} {run : List Char} (member : char ∈ run) (offset : Int) :
    ∃ place, charToken char place ∈ textTokens offset run := by
  induction run generalizing offset with
  | nil => cases member
  | cons first rest hypothesis =>
    rcases List.mem_cons.mp member with rfl | inside
    · exact ⟨offset, List.mem_cons_self⟩
    · obtain ⟨place, found⟩ := hypothesis inside (offset + 1)
      exact ⟨place, List.mem_cons_of_mem _ found⟩

theorem isText_textTokens (offset : Int) (run : List Char) :
    ∀ token ∈ textTokens offset run, token.isText = true := by
  intro token member
  obtain ⟨char, _, place, rfl⟩ := exists_char_of_mem member
  rfl

/-- The characters of a text make it up. -/
theorem join_textTokens (offset : Int) (run : List Char) :
    String.join ((textTokens offset run).map fun token => token.span.value) =
      String.ofList run := by
  induction run generalizing offset with
  | nil => rfl
  | cons char rest hypothesis =>
    rw [textTokens, List.map_cons, String.join_cons, hypothesis, Token.span]
    apply String.toList_inj.mp
    simp

end Lexer

end Mustache
