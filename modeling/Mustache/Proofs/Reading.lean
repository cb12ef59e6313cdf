import Mustache.Proofs.Balance
import Mustache.Proofs.Lexing
import Mustache.Template.Parse

/-!
**Reading in one pass is lexing, then looking at the tokens.**

A template is read in a single pass that keeps the open sections, the line at hand and the
standalone lines beside the tokens. The same comes about when the template is lexed first and its
tokens are looked at afterwards, once for each of these.

* `read_eq`: the pass from any state.
* `tokenize_eq_ok_iff`: a template has tokens if and only if lexing meets no fault and the tokens
  are balanced; the tokens then carry the lines of the partial tags.
* `parse_eq_ok_iff`: a template has a tree if and only if it has tokens, and the tree is theirs.
-/

namespace Mustache

open Lexer

/-! ### The annotation of partial tags -/

namespace Token

@[simp] theorem onLine_kind (line : HostLine) (token : Token) :
    (token.onLine line).kind = token.kind := by
  cases token <;> rfl

@[simp] theorem onLine_span (line : HostLine) (token : Token) :
    (token.onLine line).span = token.span := by
  cases token <;> rfl

@[simp] theorem onLine_isText (line : HostLine) (token : Token) :
    (token.onLine line).isText = token.isText := by
  cases token <;> rfl

@[simp] theorem onLine_isInk (line : HostLine) (token : Token) :
    (token.onLine line).isInk = token.isInk := by
  cases token <;> rfl

@[simp] theorem onLine_isNewline (line : HostLine) (token : Token) :
    (token.onLine line).isNewline = token.isNewline := by
  cases token <;> rfl

@[simp] theorem onLine_isInterpolation (line : HostLine) (token : Token) :
    (token.onLine line).isInterpolation = token.isInterpolation := by
  cases token <;> rfl

theorem onLine_onLine (line other : HostLine) (token : Token) :
    (token.onLine line).onLine other = token.onLine other := by
  cases token <;> rfl

/-- Without their lines, tokens are the same whatever line they stand on. -/
theorem map_onLine_annotate (line other : HostLine) (tokens : List Token) :
    (annotate line tokens).map (onLine other) = tokens.map (onLine other) := by
  induction tokens generalizing line with
  | nil => rfl
  | cons token rest hypothesis =>
    rw [annotate, List.map_cons, List.map_cons, onLine_onLine, hypothesis]

theorem annotate_append (line : HostLine) (first second : List Token) :
    annotate line (first ++ second) =
      annotate line first ++ annotate (first.foldl HostLine.after line) second := by
  induction first generalizing line with
  | nil => rfl
  | cons token rest hypothesis =>
    rw [List.cons_append, annotate, annotate, hypothesis, List.cons_append]
    rfl

/-- A part of the tokens with their lines comes from a part of the tokens without them. -/
theorem annotate_eq_append {line : HostLine} {tokens first second : List Token}
    (same : annotate line tokens = first ++ second) :
    ∃ before after, tokens = before ++ after ∧ first = annotate line before ∧
      second = annotate (before.foldl HostLine.after line) after := by
  induction first generalizing line tokens with
  | nil => exact ⟨[], tokens, rfl, rfl, same.symm⟩
  | cons token first hypothesis =>
    cases tokens with
    | nil => cases same
    | cons other rest =>
      obtain ⟨rfl, later⟩ := List.cons.inj same
      obtain ⟨before, after, rfl, rfl, rfl⟩ := hypothesis later
      exact ⟨other :: before, after, rfl, rfl, rfl⟩

/-- Sections are the same with and without the lines of partial tags. -/
theorem openAfter_annotate (opened : List Span) (line : HostLine) (tokens : List Token) :
    openAfter opened (annotate line tokens) = openAfter opened tokens := by
  induction tokens generalizing opened line with
  | nil => rfl
  | cons token rest hypothesis =>
    have first : openAfter opened [token.onLine line] = openAfter opened [token] := by
      cases token <;> rfl
    rw [annotate, ← List.singleton_append, openAfter_append, first,
      ← List.singleton_append (l := rest), openAfter_append]
    congr 1
    exact funext fun left => hypothesis left _

end Token

theorem Stripping.after_onLine (stripping : Stripping) (place : Nat) (line : HostLine)
    (token : Token) : stripping.after place (token.onLine line) = stripping.after place token := by
  unfold Stripping.after LineMarks.after
  simp only [Token.onLine_isInk, Token.onLine_isText, Token.onLine_isInterpolation,
    Token.onLine_isNewline]

/-- Standalone lines are the same with and without the lines of partial tags. -/
theorem Stripping.run_annotate (stripping : Stripping) (place : Nat) (line : HostLine)
    (tokens : List Token) :
    stripping.run place (Token.annotate line tokens) = stripping.run place tokens := by
  induction tokens generalizing stripping place line with
  | nil => rfl
  | cons token rest hypothesis =>
    rw [Token.annotate, Stripping.run, Stripping.run, after_onLine, hypothesis]

/-! ### The state after some tokens -/

namespace Reading

theorem foldl_push_tokens (reading : Reading) (tokens : List Token) :
    (tokens.foldl push reading).tokens.toList =
      reading.tokens.toList ++ Token.annotate reading.line tokens := by
  induction tokens generalizing reading with
  | nil => exact (List.append_nil _).symm
  | cons token rest hypothesis =>
    rw [List.foldl_cons, hypothesis]
    unfold push
    rw [Array.toList_push, List.append_assoc]
    rfl

theorem foldl_push_stripping (reading : Reading) (tokens : List Token) :
    (tokens.foldl push reading).stripping =
      reading.stripping.run reading.tokens.size tokens := by
  induction tokens generalizing reading with
  | nil => rfl
  | cons token rest hypothesis =>
    rw [List.foldl_cons, hypothesis]
    unfold push
    rw [Array.size_push]
    rfl

/-- The state after some tokens that leave some sections open and some delimiters in force. -/
def after (reading : Reading) (tokens : List Token) (opened : List Span)
    (delimiters : Delimiters) : Reading :=
  { tokens.foldl push reading with opened := opened, delimiters := delimiters }

/-- The sections and the delimiters do not bear on the tokens that are pushed. -/
theorem foldl_push_with (reading : Reading) (tokens : List Token) (opened : List Span)
    (delimiters : Delimiters) :
    tokens.foldl push { reading with opened := opened, delimiters := delimiters } =
      { tokens.foldl push reading with opened := opened, delimiters := delimiters } := by
  induction tokens generalizing reading with
  | nil => rfl
  | cons token rest hypothesis =>
    rw [List.foldl_cons, List.foldl_cons, ← hypothesis]
    rfl

theorem after_after (reading : Reading) (first second : List Token) (opened left : List Span)
    (delimiters next : Delimiters) :
    (reading.after first opened delimiters).after second left next =
      reading.after (first ++ second) left next := by
  unfold after
  rw [foldl_push_with, List.foldl_append]

theorem push_delimiters (reading : Reading) (token : Token) :
    (reading.push token).delimiters = reading.delimiters := rfl

/-- **One tag**: its sections are checked, and its delimiters are put in force. -/
theorem pushTag_eq (reading : Reading) (token : Token) {next : Delimiters}
    (change : delimitersAfter? reading.delimiters token = some next) :
    reading.pushTag token =
      (Token.openAfter reading.opened [token]).map fun left => reading.after [token] left next := by
  cases token with
  | close closing =>
    cases change
    unfold pushTag Token.openAfter
    cases reading.opened with
    | nil => rfl
    | cons innermost outer =>
      by_cases same : innermost.value = closing.value
      · simp only [if_pos same]
        rfl
      · simp only [if_neg same]
        rfl
  | delimiters span =>
    unfold pushTag
    have named : Delimiters.ofText? span.value = some next := change
    simp only [named]
    rfl
  | block inverted span body bodyStop =>
    cases change
    rfl
  | text span =>
    cases change
    rfl
  | interpolation escaped span =>
    cases change
    rfl
  | partialTag span host =>
    cases change
    rfl
  | comment span =>
    cases change
    rfl

/-- A delimiter tag that names no pair. -/
theorem pushTag_invalid (reading : Reading) (token : Token)
    (change : delimitersAfter? reading.delimiters token = none) :
    reading.pushTag token =
      .error (.invalidTags (Value.text token.span.value).shown, token.span.start) := by
  cases token with
  | delimiters span =>
    unfold pushTag
    have named : Delimiters.ofText? span.value = none := change
    simp only [named]
    rfl
  | _ => cases change

/-! ### The steps of the pass -/

variable {reading : Reading} {offset : Int}

/-- The pass from the next opening delimiter on. -/
theorem read_step (text : List Char) :
    reading.read offset text =
      let parts := reading.delimiters.openingPattern.scanUntil text
      let here := (textTokens offset parts.1).foldl push reading
      if parts.2.isEmpty then .ok here
      else
        match readTag? reading.delimiters (offset + Int.ofNat parts.1.length) parts.2 with
        | none => .error (.unclosedTag, offset + Int.ofNat text.length)
        | some (token, rest) =>
          match here.pushTag token with
          | .error fault => .error fault
          | .ok next => next.read token.span.stop rest := by
  rw [read]
  simp only
  by_cases ended : (reading.delimiters.openingPattern.scanUntil text).2.isEmpty = true
  · rw [if_pos ended, if_pos ended]
  · rw [if_neg ended, if_neg ended]
    split
    · rename_i unread
      rw [unread]
    · rename_i token rest tag
      exact tag ▸ rfl

theorem read_nil : reading.read offset [] = .ok reading := by
  rw [read_step]
  rfl

theorem read_char {char : Char} {rest : List Char}
    (plain : ¬ reading.delimiters.opening.toList <+: char :: rest) :
    reading.read offset (char :: rest) =
      (reading.push (charToken char offset)).read (offset + 1) rest := by
  have shift : ∀ count : Nat,
      offset + Int.ofNat (count + 1) = offset + 1 + Int.ofNat count := fun count => by
    simp only [Int.ofNat_eq_natCast]
    omega
  rw [read_step, read_step, push_delimiters, scanUntil_plain plain]
  simp only [List.length_cons, textTokens, shift]
  rfl

theorem read_opens {text : List Char} (opens : reading.delimiters.opening.toList <+: text) :
    reading.read offset text =
      match readTag? reading.delimiters offset text with
      | none => .error (.unclosedTag, offset + Int.ofNat text.length)
      | some (token, rest) =>
        match reading.pushTag token with
        | .error fault => .error fault
        | .ok next => next.read token.span.stop rest := by
  have start : offset + Int.ofNat ([] : List Char).length = offset := Int.add_zero offset
  rw [read_step, scanUntil_opens opens]
  simp only [isEmpty_of_opens opens, Bool.false_eq_true, if_false, start, textTokens,
    List.foldl_nil]

/-! ### The whole pass -/

/-- What the pass comes to when the rest of the text has been lexed. -/
def afterLexed (reading : Reading) (lexed : Lexed) : Except (SyntaxFault.Reason × Int) Reading :=
  match Token.openAfter reading.opened lexed.tokens, lexed.fault with
  | .error fault, _ => .error fault
  | .ok _, some fault => .error fault
  | .ok left, none => .ok (reading.after lexed.tokens left lexed.delimiters)

theorem afterLexed_prepend (tokens : List Token) (later : Lexed) (delimiters : Delimiters) :
    reading.afterLexed (later.prepend tokens) =
      Token.openAfter reading.opened tokens >>= fun left =>
        (reading.after tokens left delimiters).afterLexed later := by
  unfold afterLexed
  rw [Lexed.prepend_tokens, Lexed.prepend_fault, Lexed.prepend_delimiters,
    Token.openAfter_append]
  cases Token.openAfter reading.opened tokens with
  | error fault => rfl
  | ok left =>
    show _ = match Token.openAfter left later.tokens, later.fault with
      | Except.error fault, _ => Except.error fault
      | Except.ok _, some fault => Except.error fault
      | Except.ok final, none =>
        Except.ok ((reading.after tokens left delimiters).after later.tokens final later.delimiters)
    simp only [after_after]
    rfl

/-- **Reading in one pass is lexing, then checking the sections**; the fault that comes first in the
text is met first in either way. -/
theorem read_eq (reading : Reading) (offset : Int) (text : List Char) :
    reading.read offset text = reading.afterLexed (lex reading.delimiters offset text) := by
  suffices whole : ∀ delimiters offset text, ∀ reading : Reading,
      reading.delimiters = delimiters →
      reading.read offset text = reading.afterLexed (lex delimiters offset text) from
    whole _ offset text reading rfl
  intro delimiters offset text
  -- along the steps of lexing, for all states at once, as each step leaves another state
  induction delimiters, offset, text using lex_induction with
  | nil delimiters offset =>
    rintro reading rfl
    rw [read_nil, lex_nil]
    rfl
  | char delimiters offset char rest plain hypothesis =>
    rintro reading rfl
    rw [read_char plain, hypothesis (reading.push (charToken char offset)) rfl, lex_char plain,
      afterLexed_prepend _ _ reading.delimiters]
    rfl
  | tag delimiters offset text token rest next opens read change hypothesis =>
    rintro reading rfl
    rw [read_opens opens, read, lex_tag opens read change, afterLexed_prepend _ _ next]
    simp only
    rw [pushTag_eq reading token change]
    cases Token.openAfter reading.opened [token] with
    | error fault => rfl
    | ok left => exact hypothesis (reading.after [token] left next) rfl
  | unclosed delimiters offset text opens read =>
    rintro reading rfl
    rw [read_opens opens, read, lex_unclosed opens read]
    rfl
  | invalid delimiters offset text token rest opens read change =>
    rintro reading rfl
    rw [read_opens opens, read, lex_invalid opens read change]
    simp only
    rw [pushTag_invalid reading token change, readTag?_start read]
    cases token with
    | delimiters span => rfl
    | _ => cases change

/-- **When a whole template is read**: lexing meets no fault, and the tokens are balanced. -/
theorem ofText_eq_ok_iff {delimiters : Delimiters} {text : List Char} :
    ofText delimiters text = .ok reading ↔
      (lex delimiters 0 text).fault = none ∧ Token.Balanced (lex delimiters 0 text).tokens ∧
        reading = after { delimiters } (lex delimiters 0 text).tokens []
          (lex delimiters 0 text).delimiters := by
  unfold ofText
  rw [read_eq, Token.balanced_iff]
  unfold afterLexed
  simp only
  cases checked : Token.openAfter [] (lex delimiters 0 text).tokens with
  | error fault => simp
  | ok left =>
    cases (lex delimiters 0 text).fault with
    | some fault => simp
    | none =>
      cases left with
      | nil =>
        exact ⟨fun same => ⟨rfl, rfl, (Except.ok.inj same).symm⟩,
          fun parts => congrArg Except.ok parts.2.2.symm⟩
      | cons innermost outer => simp [after]

/-- The tokens of a reading carry the lines of the partial tags. -/
theorem after_tokens (delimiters next : Delimiters) (tokens : List Token) (left : List Span) :
    (after { delimiters } tokens left next).tokens.toList = Token.annotate {} tokens :=
  (foldl_push_tokens _ _).trans (List.nil_append _)

/-- The stripped places of a reading are those of its tokens. -/
theorem after_stripped (delimiters next : Delimiters) (tokens : List Token) (left : List Span) :
    (after { delimiters } tokens left next).stripped =
      Token.strippedIndexes (Token.annotate {} tokens) := by
  unfold stripped Token.strippedIndexes
  rw [Stripping.run_annotate]
  exact congrArg Stripping.result (foldl_push_stripping _ _)

end Reading

/-! ### Templates -/

/-- A result that is told from its image. -/
theorem exists_ok_of_toOption_map {Fault Result Image : Type} {outcome : Except Fault Result}
    {image : Result → Image} {value : Image}
    (found : outcome.toOption.map image = some value) :
    ∃ result, outcome = .ok result ∧ image result = value := by
  cases outcome with
  | error fault => cases found
  | ok result => exact ⟨result, rfl, Option.some.inj found⟩

variable {delimiters : Delimiters} {template : String}

theorem Reading.ofTemplate_eq_ok_iff {reading : Reading} :
    ofTemplate delimiters template = .ok reading ↔
      ofText delimiters template.toList = .ok reading := by
  unfold ofTemplate
  cases ofText delimiters template.toList with
  | error fault => simp
  | ok other => simp

/-- **A template has tokens** if and only if lexing meets no fault and what it finds is balanced. -/
theorem tokenize_eq_ok_iff {tokens : List Token} :
    tokenize delimiters template = .ok tokens ↔
      (lex delimiters 0 template.toList).fault = none ∧
        Token.Balanced (lex delimiters 0 template.toList).tokens ∧
        tokens = Token.annotate {} (lex delimiters 0 template.toList).tokens := by
  constructor
  · intro found
    unfold tokenize at found
    match read : Reading.ofTemplate delimiters template with
    | .error fault =>
      rw [read] at found
      cases found
    | .ok reading =>
      rw [read] at found
      obtain ⟨sound, balanced, rfl⟩ :=
        Reading.ofText_eq_ok_iff.mp (Reading.ofTemplate_eq_ok_iff.mp read)
      refine ⟨sound, balanced, ?_⟩
      rw [← Reading.after_tokens delimiters (lex delimiters 0 template.toList).delimiters _ []]
      exact (Except.ok.inj found).symm
  · rintro ⟨sound, balanced, rfl⟩
    have read := Reading.ofTemplate_eq_ok_iff.mpr
      (Reading.ofText_eq_ok_iff.mpr ⟨sound, balanced, rfl⟩)
    unfold tokenize
    rw [read, ← Reading.after_tokens delimiters (lex delimiters 0 template.toList).delimiters _ []]
    rfl

/-- The tokens of a reading are those of its template. -/
theorem Reading.tokenize_eq {reading : Reading}
    (read : ofTemplate delimiters template = .ok reading) :
    tokenize delimiters template = .ok reading.tokens.toList := by
  unfold tokenize
  rw [read]
  rfl

/-- The stripped places of a reading are those of its tokens. -/
theorem Reading.stripped_eq {reading : Reading}
    (read : ofTemplate delimiters template = .ok reading) :
    reading.stripped = Token.strippedIndexes reading.tokens.toList := by
  obtain ⟨_, _, rfl⟩ := ofText_eq_ok_iff.mp (ofTemplate_eq_ok_iff.mp read)
  rw [after_stripped, after_tokens]

/-- **A template has a tree** if and only if it has tokens, and the tree is theirs. -/
theorem parse_eq_ok_iff {tree : List Token} :
    parse delimiters template = .ok tree ↔
      ∃ tokens, tokenize delimiters template = .ok tokens ∧
        tree = Token.arrange (Token.strippedIndexes tokens) tokens := by
  unfold parse tokenize
  match read : Reading.ofTemplate delimiters template with
  | .error fault => simp [Except.map]
  | .ok reading => simp [Except.map, Reading.stripped_eq read, eq_comm]

end Mustache
