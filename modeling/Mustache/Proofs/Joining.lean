import Mustache.Proofs.Locality
import Mustache.Proofs.Places
import Mustache.Proofs.Shifting
import Mustache.Proofs.StandaloneLines

/-!
**Templates are read line by line.**

Behind a line feed nothing is left of what stands before it: the line of partial tags and the line
that may be stripped begin anew, no section is open, and no search that began earlier runs on. Two
templates, the first of which ends with a line feed, are read one after the other as they are read
together.

* `strippedIndexes_append`: what is stripped on the lines of two lists of tokens.
* `place_append`: lines and columns behind a line feed.
* `FirstFault.further`: the first fault behind balanced tokens.
* `ofTemplate_append`: **the main statement.**
-/

namespace Mustache

open Lexer

/-! ### The line feed at the end -/

theorem Lexer.isNewline_charToken (char : Char) (place : Int) :
    (charToken char place).isNewline = true ↔ char = '\n' := by
  unfold charToken Token.isNewline
  constructor
  · intro same
    have characters := congrArg String.toList (eq_of_beq same)
    rw [String.toList_singleton] at characters
    exact (List.cons.inj characters).1
  · rintro rfl
    rfl

theorem Lexer.isNewline_textTokens {run : List Char} (single : '\n' ∉ run) (offset : Int) :
    ∀ token ∈ textTokens offset run, token.isNewline = false := by
  intro token member
  obtain ⟨char, inside, place, rfl⟩ := exists_char_of_mem member
  rw [Bool.eq_false_iff, ne_eq, isNewline_charToken]
  rintro rfl
  exact single inside

/-- The line of a partial tag begins anew behind a line feed. -/
theorem HostLine.after_newline {token : Token} (newline : token.isNewline = true)
    (line : HostLine) : line.after token = {} := by
  cases token with
  | text span =>
    have fed : span.value = "\n" := eq_of_beq newline
    show span.value.toList.foldl HostLine.afterChar line = {}
    rw [fed]
    rfl
  | _ => cases newline

/-- It begins anew behind tokens that end with a line feed. -/
theorem HostLine.foldl_newline {tokens : List Token}
    (newline : ∃ token ∈ tokens.getLast?, token.isNewline = true) (line : HostLine) :
    tokens.foldl HostLine.after line = {} := by
  obtain ⟨token, member, newline⟩ := newline
  obtain ⟨before, rfl⟩ := List.getLast?_eq_some_iff.mp member
  rw [List.foldl_append]
  exact after_newline newline _

/-- The text token of a line feed is the line feed of the template. -/
theorem Token.Covers.getLast_newline {delimiters : Delimiters} {offset : Int} {text : List Char}
    {before : List Token} {token : Token}
    (covers : Covers delimiters offset text (before ++ [token]))
    (newline : token.isNewline = true) : ∃ passed, text = passed ++ ['\n'] := by
  obtain ⟨passed, rest, inForce, rfl, _, last⟩ := covers.split
  cases last with
  | @text _ _ char _ _ _ behind =>
    cases behind
    exact ⟨passed, by rw [(isNewline_charToken char _).mp newline]⟩
  | tag tag _ _ _ _ =>
    cases token with
    | text span => exact (tag.kind_ne_text rfl).elim
    | _ => cases newline

/-! ### Stripped lines -/

theorem Stripping.after_shift (stripping : Stripping) (place : Nat) (amount : Int)
    (token : Token) : stripping.after place (token.shift amount) = stripping.after place token := by
  unfold Stripping.after LineMarks.after
  simp only [Token.shift_isInk, Token.shift_isText, Token.shift_isInterpolation,
    Token.shift_isNewline]

/-- Standalone lines are the same wherever they stand. -/
theorem Stripping.run_shift (stripping : Stripping) (place : Nat) (amount : Int)
    (tokens : List Token) :
    stripping.run place (tokens.map (Token.shift amount)) = stripping.run place tokens := by
  induction tokens generalizing stripping place with
  | nil => rfl
  | cons token rest hypothesis =>
    rw [List.map_cons, Stripping.run, Stripping.run, after_shift, hypothesis]

namespace Token

theorem strippedIndexes_shift (amount : Int) (tokens : List Token) :
    strippedIndexes (tokens.map (shift amount)) = strippedIndexes tokens := by
  unfold strippedIndexes
  rw [Stripping.run_shift]

theorem whitePlaces_add (place count : Nat) (tokens : List Token) :
    whitePlaces (place + count) tokens = (whitePlaces place tokens).map (· + count) := by
  induction tokens generalizing place with
  | nil => rfl
  | cons token rest hypothesis =>
    have later : place + count + 1 = place + 1 + count := by omega
    rw [whitePlaces_cons, whitePlaces_cons, later, hypothesis]
    split
    · rfl
    · rfl

theorem strippedOn_add (place count : Nat) (lines : List (List Token)) :
    strippedOn (place + count) lines = (strippedOn place lines).map (· + count) := by
  induction lines generalizing place with
  | nil => rfl
  | cons line rest hypothesis =>
    have later : place + count + line.length = place + line.length + count := by omega
    rw [strippedOn, strippedOn, later, hypothesis, whitePlaces_add, List.map_append]
    split
    · rfl
    · rfl

theorem strippedOn_append (place : Nat) (first second : List (List Token)) :
    strippedOn place (first ++ second) =
      strippedOn place first ++ strippedOn (place + first.flatten.length) second := by
  induction first generalizing place with
  | nil => rfl
  | cons line rest hypothesis =>
    rw [List.cons_append, strippedOn, strippedOn, hypothesis, List.append_assoc,
      List.flatten_cons, List.length_append, Nat.add_assoc]

/-- The lines of two lists of tokens, the first of which ends with a line feed. -/
theorem lines_append {first : List Token}
    (newline : ∀ token ∈ first.getLast?, token.isNewline = true) (second : List Token) :
    lines (first ++ second) = lines first ++ lines second := by
  refine List.splitBy_append fun token member other _ => ?_
  rw [newline token member]
  rfl

/-- **What is stripped on the lines of two lists of tokens**, the first of which ends with a line
feed. -/
theorem strippedIndexes_append {first : List Token}
    (newline : ∀ token ∈ first.getLast?, token.isNewline = true) (second : List Token) :
    strippedIndexes (first ++ second) =
      strippedIndexes first ++ (strippedIndexes second).map (· + first.length) := by
  rw [strippedIndexes_eq, strippedIndexes_eq, strippedIndexes_eq, lines_append newline,
    strippedOn_append, ← strippedOn_add]
  unfold lines
  rw [List.flatten_splitBy]

end Token

/-! ### Lines and columns -/

namespace Text

/-- **Lines and columns behind a line feed.** -/
theorem place_append {first : List Char} (newline : ∃ passed, first = passed ++ ['\n'])
    (second : List Char) {offset : Int} (forward : 0 ≤ offset) :
    place (first ++ second) (offset + first.length) =
      ⟨(place second offset).line + (first.count '\n' : Nat), (place second offset).column⟩ := by
  obtain ⟨passed, ended⟩ := newline
  have size : (offset + first.length).toNat = first.length + offset.toNat := by omega
  have head : before (first ++ second) (offset + first.length) =
      first ++ before second offset := by
    unfold before
    rw [if_pos forward, if_pos (by omega), size, List.take_length_add_append]
  have last : lastLineLength (first ++ before second offset) =
      lastLineLength (before second offset) := by
    rw [ended, lastLineLength_append]
  have bound := lastLineLength_le (before second offset)
  unfold place
  simp only [head, last, List.count_append, List.length_append]
  congr 1
  · omega
  · omega

end Text

/-! ### The first fault -/

namespace FirstFault

variable {lexed : Lexed} {size : Nat} {reason : SyntaxFault.Reason} {position : Int}

/-- **The first fault behind balanced tokens** is the one that is first without them. -/
theorem further (fault : FirstFault lexed size reason position) {tokens : List Token}
    (balanced : Token.Balanced tokens) (amount : Nat) :
    FirstFault ((lexed.shift amount).prepend tokens) (amount + size) reason
      (position + amount) := by
  have sections : Token.openAfter [] ((lexed.shift amount).prepend tokens).tokens =
      ((Token.openAfter [] lexed.tokens).map (List.map (Span.shift amount))).mapError
        fun fault => (fault.1, fault.2 + (amount : Int)) := by
    rw [← Token.openAfter_shift]
    exact balanced.openAfter_append _
  have leave : ∀ {opened}, Token.Leaves lexed.tokens opened →
      Token.Leaves ((lexed.shift amount).prepend tokens).tokens
        (opened.map (Span.shift amount)) := by
    intro opened leaves
    rw [Token.leaves_iff, sections, Token.leaves_iff.mp leaves]
    rfl
  have place : (size : Int) + amount = (amount + size : Nat) := by omega
  cases fault with
  | misfit misfit =>
    refine .misfit (Token.openAfter_eq_error_iff.mp ?_)
    rw [sections, Token.openAfter_eq_error_iff.mpr misfit]
    rfl
  | @invalidTags before span opened split refused leaves =>
    have whole : ((lexed.shift amount).prepend tokens).tokens =
        tokens ++ before.map (Token.shift amount) ++ [.delimiters (span.shift amount)] := by
      rw [List.append_assoc]
      show tokens ++ lexed.tokens.map _ = _
      rw [split, List.map_append]
      rfl
    exact .invalidTags whole refused (leave leaves)
  | @unclosedTag stop opened stopped leaves =>
    have further : ((lexed.shift amount).prepend tokens).fault =
        some (.unclosedTag, stop + amount) := by
      show lexed.fault.map _ = _
      rw [stopped]
      rfl
    rw [place]
    exact .unclosedTag further (leave leaves)
  | @unclosedSection innermost outer sound leaves =>
    have further : ((lexed.shift amount).prepend tokens).fault = none := by
      show lexed.fault.map _ = _
      rw [sound]
      rfl
    rw [place]
    exact @unclosedSection _ _ (innermost.shift amount) _ further (leave leaves)

end FirstFault

/-! ### Two templates as one -/

namespace Reading

variable {delimiters : Delimiters} {first : String} {reading : Reading}

/-- The line feed that the first template ends with: it is the last character, and partial tags
begin a line behind it. -/
theorem newline_of_ofTemplate (read : ofTemplate delimiters first = .ok reading)
    (newline : ∃ token ∈ reading.tokens.toList.getLast?, token.isNewline = true) :
    (∃ passed, first.toList = passed ++ ['\n']) ∧
      (lex delimiters 0 first.toList).tokens.foldl HostLine.after {} = {} := by
  obtain ⟨sound, _, same⟩ := tokenize_eq_ok_iff.mp (tokenize_eq read)
  obtain ⟨token, member, newline⟩ := newline
  obtain ⟨before, last⟩ := List.getLast?_eq_some_iff.mp member
  constructor
  · have covers := Token.covers_tokenize (tokenize_eq read)
    rw [last] at covers
    exact covers.getLast_newline newline
  · obtain ⟨ahead, final, whole, _, ended⟩ := Token.annotate_eq_append (same.symm.trans last)
    cases final with
    | nil => cases ended
    | cons other more =>
      obtain ⟨rfl, none⟩ := List.cons.inj ended
      cases more with
      | nil =>
        rw [Token.onLine_isNewline] at newline
        rw [whole]
        exact HostLine.foldl_newline ⟨other, List.getLast?_concat, newline⟩ {}
      | cons _ _ => cases none

/-- A template without tokens is empty. -/
theorem empty_or_newline (read : ofTemplate delimiters first = .ok reading)
    (ended : ∀ token ∈ reading.tokens.toList.getLast?, token.isNewline = true) :
    first = "" ∨ ∃ token ∈ reading.tokens.toList.getLast?, token.isNewline = true := by
  cases last : reading.tokens.toList.getLast? with
  | none =>
    have covers := Token.covers_tokenize (tokenize_eq read)
    rw [List.getLast?_eq_none_iff.mp last] at covers
    generalize whole : first.toList = text at covers
    cases covers
    exact .inl (String.toList_eq_nil_iff.mp whole)
  | some token => exact .inr ⟨token, rfl, ended token last⟩

/-- Its last character is a line feed, if its last token is one. -/
theorem getLast?_newline (read : ofTemplate delimiters first = .ok reading)
    (ended : ∀ token ∈ reading.tokens.toList.getLast?, token.isNewline = true) :
    ∀ char ∈ first.toList.getLast?, char = '\n' := by
  intro char member
  rcases empty_or_newline read ended with rfl | newline
  · cases member
  · obtain ⟨⟨passed, whole⟩, _⟩ := newline_of_ofTemplate read newline
    rw [whole, List.getLast?_concat] at member
    cases member
    rfl

/-- The tokens of the two templates together. -/
theorem lex_joined (unbroken : delimiters.Unbroken)
    (read : ofTemplate delimiters first = .ok reading)
    (newline : ∃ token ∈ reading.tokens.toList.getLast?, token.isNewline = true)
    (second : String) :
    lex delimiters 0 (first ++ second).toList =
      ((lex reading.delimiters 0 second.toList).shift first.length).prepend
        (lex delimiters 0 first.toList).tokens := by
  obtain ⟨⟨passed, last⟩, _⟩ := newline_of_ofTemplate read newline
  obtain ⟨sound, _, rfl⟩ := ofText_eq_ok_iff.mp (ofTemplate_eq_ok_iff.mp read)
  have blank : ∀ char ∈ first.toList.getLast?, Text.isBlank char = true := by
    intro char member
    rw [last, List.getLast?_concat] at member
    cases member
    decide +kernel
  rw [String.toList_append, lex_append unbroken blank sound, lex_shift, String.length_toList]
  rfl

/-- **Templates are read line by line.** If the tokens of a template end with a line feed, and its
delimiters contain no blank, then what follows it is read as a template of its own with the
delimiters in force at its end: the tokens stand further on, with the lines of partial tags as they
are, the places of the stripped tokens count from the tokens before them, and the first fault is
some characters and lines further on in the same column. -/
theorem ofTemplate_append (unbroken : delimiters.Unbroken)
    (read : ofTemplate delimiters first = .ok reading)
    (newline : ∃ token ∈ reading.tokens.toList.getLast?, token.isNewline = true)
    (second : String) :
    (∀ later, ofTemplate reading.delimiters second = .ok later →
      ∃ whole, ofTemplate delimiters (first ++ second) = .ok whole ∧
        whole.tokens.toList =
          reading.tokens.toList ++ later.tokens.toList.map (Token.shift first.length) ∧
        whole.stripped = reading.stripped ++ later.stripped.map (· + reading.tokens.size) ∧
        whole.delimiters = later.delimiters) ∧
    ∀ fault, ofTemplate reading.delimiters second = .error fault →
      ofTemplate delimiters (first ++ second) =
        .error ⟨fault.reason, fault.position + first.length,
          fault.place.line + (first.toList.count '\n' : Nat), fault.place.column⟩ := by
  have joined := lex_joined unbroken read newline second
  obtain ⟨ended, fresh⟩ := newline_of_ofTemplate read newline
  obtain ⟨sound, balanced, same⟩ := tokenize_eq_ok_iff.mp (tokenize_eq read)
  constructor
  · intro later found
    obtain ⟨soundLater, balancedLater, sameLater⟩ := tokenize_eq_ok_iff.mp (tokenize_eq found)
    have soundWhole : (lex delimiters 0 (first ++ second).toList).fault = none := by
      rw [joined, Lexed.prepend_fault, Lexed.shift, soundLater]
      rfl
    have balancedWhole : Token.Balanced (lex delimiters 0 (first ++ second).toList).tokens := by
      rw [joined]
      exact balanced.append (balancedLater.shift _)
    have readWhole := ofTemplate_eq_ok_iff.mpr
      (ofText_eq_ok_iff.mpr ⟨soundWhole, balancedWhole, rfl⟩)
    have tokens : Token.annotate {} (lex delimiters 0 (first ++ second).toList).tokens =
        reading.tokens.toList ++ later.tokens.toList.map (Token.shift first.length) := by
      rw [joined, Lexed.prepend_tokens, Token.annotate_append, fresh, ← same, sameLater,
        ← Token.annotate_shift]
      rfl
    refine ⟨_, readWhole, ?_, ?_, ?_⟩
    · rw [after_tokens, tokens]
    · obtain ⟨token, member, newline⟩ := newline
      have last : ∀ token ∈ reading.tokens.toList.getLast?, token.isNewline = true := by
        intro other equal
        cases Option.mem_unique member equal
        exact newline
      rw [after_stripped, tokens, Token.strippedIndexes_append last, Token.strippedIndexes_shift,
        ← stripped_eq read, ← stripped_eq found, Array.length_toList]
    · obtain ⟨_, _, rfl⟩ := ofText_eq_ok_iff.mp (ofTemplate_eq_ok_iff.mp found)
      show (lex delimiters 0 (first ++ second).toList).delimiters = _
      rw [joined]
      rfl
  · intro fault failed
    obtain ⟨reason, position, firstFault, rfl⟩ := ofTemplate_eq_error_iff.mp failed
    have forward := (firstFault.position_bounds (lex_start_bounds _ _ _)).1
    have further := firstFault.further balanced first.length
    have place := Text.place_append ended second.toList forward
    rw [← joined, ← String.length_append] at further
    rw [ofTemplate_eq_error_iff.mpr ⟨reason, _, further, rfl⟩]
    unfold SyntaxFault.locate
    simp only [String.toList_append]
    rw [← String.length_toList, place]

/-- A line that changes the delimiters; its line feed is stripped. -/
def firstLines : String := "a\n\x7b\x7b=<| |>=\x7d\x7d\n"

/-- A partial with blanks before it, alone on its line, and a section behind it. -/
def secondLines : String := "  <|>p|>\n<|#s|>b<|/s|>"

theorem ofTemplate_append_lines :
    ∃ reading later whole, ofTemplate .standard firstLines = .ok reading ∧
      reading.delimiters = .angled ∧ ofTemplate .angled secondLines = .ok later ∧
      later.stripped = [0, 1, 3] ∧
      ofTemplate .standard (firstLines ++ secondLines) = .ok whole ∧
      whole.tokens.toList =
        reading.tokens.toList ++ later.tokens.toList.map (Token.shift firstLines.length) ∧
      whole.stripped = [3, 4, 5, 7] := by
  have named : Delimiters.ofText? "\x7b\x7b \x7d\x7d" = some .standard := by decide +kernel
  have unbroken := Delimiters.unbroken_of_ofText? named
  have shape : (ofTemplate .standard firstLines).toOption.map (fun reading =>
      (reading.tokens.toList.getLast?.map Token.isNewline, reading.delimiters, reading.stripped,
        reading.tokens.size)) = some (some true, .angled, [3], 4) := by decide +kernel
  have laterShape : (ofTemplate .angled secondLines).toOption.map stripped =
      some [0, 1, 3] := by decide +kernel
  obtain ⟨reading, read, shown⟩ := exists_ok_of_toOption_map shape
  obtain ⟨later, found, places⟩ := exists_ok_of_toOption_map laterShape
  obtain ⟨ended, force, first, size⟩ : _ ∧ _ ∧ _ ∧ _ := by simpa using shown
  have newline : ∃ token ∈ reading.tokens.toList.getLast?, token.isNewline = true := by
    simpa using ended
  obtain ⟨whole, joined, tokens, stripped, _⟩ :=
    (ofTemplate_append unbroken read newline secondLines).1 later (by rw [force, found])
  refine ⟨reading, later, whole, read, force, found, places, joined, tokens, ?_⟩
  rw [stripped, first, places, size]
  rfl

end Reading

end Mustache
