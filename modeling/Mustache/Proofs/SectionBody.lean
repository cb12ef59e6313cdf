import Mustache.Proofs.FaithfulTree
import Mustache.Proofs.Locality
import Mustache.Proofs.Shifting
import Mustache.Render.Renderer

/-!
**The body of a section is a template of its own.**

A function of a section is given the raw body, and may have it rendered. That body has the very
tokens that stand between the two tags of the section, though they were read with more text behind
them, on lines that began before the section and within other sections.

* `rawBody_eq`: the raw body of a section among the characters of its template.
* `exists_close_of_tokenize`: the closing tag of a section.
* `tokenize_rawBody`: **the main statement.**
-/

namespace Mustache

/-! ### The raw body -/

/-- What stands between two others is the raw body between their offsets. -/
theorem rawBody_eq {template : String} {passed body rest : List Char} {start stop : Int}
    (whole : template.toList = passed ++ (body ++ rest)) (first : start = passed.length)
    (second : stop = start + body.length) : rawBody template start stop = String.ofList body := by
  subst first second
  unfold rawBody placeOf
  have nonnegative : ¬ ((passed.length : Int) + body.length < 0) := by omega
  have place : ((passed.length : Int) + body.length).toNat = (passed ++ body).length := by
    rw [List.length_append]
    omega
  simp only [if_neg nonnegative, if_neg (Int.not_lt.mpr (Int.natCast_nonneg passed.length)), place,
    Int.toNat_natCast]
  rw [whole, ← List.append_assoc, List.take_left, List.drop_left]

variable {delimiters : Delimiters} {template : String} {tokens before rest : List Token}
  {inverted : Bool} {span : Span} {body : List Token} {bodyStop : Int}

/-- **What stands between the tags of a section** in its template. -/
theorem exists_raw_of_tokenize {inner after : List Token} {closing : Span}
    (read : tokenize delimiters template = .ok tokens)
    (split : tokens = before ++ .block inverted span body bodyStop ::
      (inner ++ .close closing :: after)) :
    ∃ passed raw behind, template.toList = passed ++ (raw ++ behind) ∧
      span.stop = passed.length ∧ closing.start = span.stop + raw.length := by
  have covers := Token.covers_tokenize read
  have chain := covers.isChain
  rw [split, List.append_cons] at covers
  obtain ⟨passed, others, inForce, whole, _, left⟩ := covers.split
  obtain ⟨raw, behind, _, rfl, _, last⟩ := left.split
  have place := left.head_start
  have stop := last.head_start (.close closing) rfl
  -- the first token behind the tag starts where the tag stops
  have start : span.stop = passed.length := by
    rw [split] at chain
    have touch := (List.isChain_cons.mp (List.isChain_append.mp chain).2.1).1
    obtain ⟨first, member⟩ : ∃ first, first ∈ (inner ++ Token.close closing :: after).head? :=
      Option.isSome_iff_exists.mp (by cases inner <;> rfl)
    have same := touch first member
    rw [place first member, Int.zero_add] at same
    exact same.symm
  refine ⟨passed, raw, behind, whole, start, ?_⟩
  rw [start, ← Int.zero_add (passed.length : Int)]
  exact stop

/-- Each section has a closing tag of its own name. -/
theorem exists_close_of_tokenize (read : tokenize delimiters template = .ok tokens)
    (split : tokens = before ++ .block inverted span body bodyStop :: rest) :
    ∃ inner closing after, rest = inner ++ .close closing :: after ∧ Token.Balanced inner ∧
      closing.value = span.value := by
  obtain ⟨_, balanced, same⟩ := tokenize_eq_ok_iff.mp read
  have emptied : Token.openAfter [] tokens = .ok [] := by
    rw [same, Token.openAfter_annotate]
    exact (Token.balanced_iff _).mp balanced
  rw [split, Token.openAfter_append] at emptied
  cases first : Token.openAfter [] before with
  | error fault =>
    rw [first] at emptied
    cases emptied
  | ok opened =>
    rw [first] at emptied
    change Token.openAfter (span :: opened) rest = .ok [] at emptied
    obtain ⟨inner, closing, after, whole, inside, named, _⟩ := Token.closes_of_openAfter emptied
    exact ⟨inner, closing, after, whole, inside, named⟩

/-- **The body of a section is a template of its own.** Each section of a template has its closing
tag, and what stands between the two, read with the delimiters in force behind the first, has the
tokens that stand there in the template: they differ in what the lines of partial tags hold before
them, and in nothing else. -/
theorem tokenize_rawBody (read : tokenize delimiters template = .ok tokens)
    (split : tokens = before ++ .block inverted span body bodyStop :: rest) :
    (∃ inner closing after, rest = inner ++ .close closing :: after ∧ Token.Balanced inner ∧
      closing.value = span.value) ∧
    ∀ inner closing after, rest = inner ++ .close closing :: after → Token.Balanced inner →
      ∃ inForce bodyTokens,
        delimiters.after? (before ++ [.block inverted span body bodyStop]) = some inForce ∧
        tokenize inForce (rawBody template span.stop closing.start) = .ok bodyTokens ∧
        bodyTokens.map (Token.onLine {}) =
          inner.map fun token => (token.shift (-span.stop)).onLine {} := by
  refine ⟨exists_close_of_tokenize read split, ?_⟩
  rintro inner closing after rfl balanced
  obtain ⟨sound, _, same⟩ := tokenize_eq_ok_iff.mp read
  -- the tokens up to the body, those of the body and those behind it, without their lines
  rw [split, List.append_cons] at same
  obtain ⟨ahead, others, whole, first, behind⟩ := Token.annotate_eq_append same.symm
  obtain ⟨within, left, rfl, rfl, last⟩ := Token.annotate_eq_append behind.symm
  -- the parts of the template that they come from
  obtain ⟨passed, text, inForce, cut, force, lexedAhead, lexedText⟩ := lex_split sound whole
  obtain ⟨bodyText, behindText, final, rfl, _, lexedBody, lexedBehind⟩ :=
    lex_split (congrArg Lexed.fault lexedText) (congrArg Lexed.tokens lexedText)
  rw [Int.zero_add] at lexedBody lexedBehind
  have start : span.stop = passed.length := by
    have covers := covers_lex delimiters 0 passed (congrArg Lexed.fault lexedAhead)
    rw [lexedAhead] at covers
    have covered := covers.annotate {}
    rw [← first] at covered
    rw [← Int.zero_add (passed.length : Int)]
    exact covered.getLast_stop (.block inverted span body bodyStop) List.getLast?_concat
  have stop : closing.start = span.stop + bodyText.length := by
    have covers := covers_lex final _ behindText (congrArg Lexed.fault lexedBehind)
    rw [lexedBehind] at covers
    have covered := covers.annotate (within.foldl HostLine.after (ahead.foldl HostLine.after {}))
    rw [← last] at covered
    rw [start]
    exact covered.head_start (.close closing) rfl
  have lexed : lex inForce 0 bodyText = ⟨within.map (Token.shift (-span.stop)), none, final⟩ := by
    have shifted := lex_shift (-span.stop) inForce passed.length bodyText
    rw [lexedBody, start, Int.add_right_neg] at shifted
    rw [shifted, start]
    rfl
  have inside : Token.Balanced within := by
    rw [Token.balanced_iff, Token.openAfter_annotate] at balanced
    exact (Token.balanced_iff within).mpr balanced
  refine ⟨inForce, Token.annotate {} (within.map (Token.shift (-span.stop))), ?_, ?_, ?_⟩
  · rw [first, Token.after?_annotate]
    exact force
  · rw [rawBody_eq cut start stop, tokenize_eq_ok_iff, String.toList_ofList, lexed]
    exact ⟨rfl, inside.shift (-span.stop), rfl⟩
  · rw [Token.map_onLine_annotate, ← Token.map_onLine_annotate (ahead.foldl HostLine.after {}),
      Token.annotate_shift, List.map_map]
    rfl

/-- A section within a line, with a partial, a variable with other delimiters and an inner section
in its body. -/
def Token.sectionTemplate : String :=
  "a\n b\x7b\x7b#s\x7d\x7d \x7b\x7b>p\x7d\x7d\x7b\x7b=<% %>=\x7d\x7d<%x%><%^t%>\n<%/t%><%/s%>"

theorem tokenize_rawBody_partial :
    ∃ tokens before span body bodyStop inner closing after inForce bodyTokens,
      tokenize .standard Token.sectionTemplate = .ok tokens ∧
      tokens = before ++ .block false span body bodyStop :: (inner ++ .close closing :: after) ∧
      tokens.map Token.kind = [.text, .text, .text, .text] ++ .plainSection ::
        [.text, .partialTag, .delimiters, .name, .invertedSection, .text, .close, .close] ∧
      Delimiters.standard.after? (before ++ [.block false span body bodyStop]) = some inForce ∧
      tokenize inForce (rawBody Token.sectionTemplate span.stop closing.start) = .ok bodyTokens ∧
      bodyTokens.map (Token.onLine {}) =
        inner.map fun token => (token.shift (-span.stop)).onLine {} := by
  have kinds : (tokenize .standard Token.sectionTemplate).toOption.map (List.map Token.kind) =
      some ([.text, .text, .text, .text] ++ .plainSection ::
        [.text, .partialTag, .delimiters, .name, .invertedSection, .text, .close, .close]) := by
    decide +kernel
  obtain ⟨tokens, read, same⟩ := exists_ok_of_toOption_map kinds
  obtain ⟨before, others, rfl, _, behind⟩ := List.map_eq_append_iff.mp same
  obtain ⟨token, rest, rfl, kind, _⟩ := List.map_eq_cons_iff.mp behind
  cases token with
  | block inverted span body bodyStop =>
    cases inverted with
    | false =>
      obtain ⟨⟨inner, closing, after, rfl, balanced, _⟩, bodies⟩ := tokenize_rawBody read rfl
      obtain ⟨inForce, bodyTokens, force, inside, agree⟩ := bodies inner closing after rfl balanced
      exact ⟨_, before, span, body, bodyStop, inner, closing, after, inForce, bodyTokens, read, rfl,
        same, force, inside, agree⟩
    | true => cases kind
  | interpolation escaped _ => cases escaped <;> cases kind
  | _ => cases kind

end Mustache
