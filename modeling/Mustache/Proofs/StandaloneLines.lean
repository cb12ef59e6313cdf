import Mathlib.Data.List.SplitBy
import Mustache.Proofs.Coverage

/-!
**What is stripped from standalone lines.**

The tokens of a template are split into lines, each of which ends behind the text token of a line
feed. A line is standalone if it has a tag, all of its text is blank and it has no variable. While a
template is read, its lines are judged from marks that are kept along the way; what is stripped in
the end is all of the text on the standalone lines, and nothing else.

* `Token.lines`, `Token.Standalone`: the lines, and which of them leave no trace.
* `LineMarks.run_eq`: the marks say what a line holds.
* `Stripping.run_lines`: what is stripped, one line after the other.
* `Token.mem_strippedIndexes`: the places that are stripped on one line.
* `stripsLines_of_ofTemplate`: **the main statement.**
-/

namespace Mustache

namespace Token

/-- **The lines of some tokens**: a line ends behind a line feed, or where the tokens end. -/
def lines (tokens : List Token) : List (List Token) :=
  tokens.splitBy fun token _ => !token.isNewline

/-- A text token that holds one blank. -/
def IsBlank (token : Token) : Prop :=
  ∃ char span, token = text span ∧ span.value = String.singleton char ∧ Text.isBlank char = true

/-- **A standalone line**: it has a tag, all of its text is blank, and it has no variable. -/
structure Standalone (line : List Token) : Prop where
  tag : ∃ token ∈ line, token.isText = false
  blank : ∀ span, text span ∈ line → Text.Blank span.value.toList
  plain : ∀ token ∈ line, token.kind ≠ .name ∧ token.kind ≠ .unescaped

/-- **What it means that some places are those of the blanks on standalone lines.** -/
structure StripsLines (tokens : List Token) (stripped : List Nat) : Prop where
  /-- A place on a line is stripped if it holds a blank and the line is standalone. -/
  place : ∀ before line after, lines tokens = before ++ line :: after →
    ∀ (position : Nat) token, (line)[position]? = some token →
      (before.flatten.length + position ∈ stripped ↔ token.IsBlank ∧ Standalone line)
  /-- Neither tags nor texts that are not blank are stripped. -/
  blank : ∀ index ∈ stripped, ∃ token, tokens[index]? = some token ∧ token.IsBlank
  /-- On each line either all text is stripped, or none is. -/
  line : ∀ before line after, lines tokens = before ++ line :: after →
    (∀ (position : Nat) token, (line)[position]? = some token → token.isText = true →
      before.flatten.length + position ∈ stripped) ∨
    ∀ position < line.length, before.flatten.length + position ∉ stripped

/-! ### The marks of a line -/

/-- A text token that is all blank. -/
def isWhite (token : Token) : Bool := token.isText && !token.isInk

/-- A token that no standalone line holds. -/
def isSolid (token : Token) : Bool := token.isInk || token.isInterpolation

/-- The places of the blank texts among some tokens, the first of which stands at a place. -/
def whitePlaces (place : Nat) (tokens : List Token) : List Nat :=
  ((tokens.zipIdx place).filter fun entry => entry.1.isWhite).map Prod.snd

theorem whitePlaces_cons (place : Nat) (token : Token) (rest : List Token) :
    whitePlaces place (token :: rest) =
      if token.isWhite then place :: whitePlaces (place + 1) rest
      else whitePlaces (place + 1) rest := by
  unfold whitePlaces
  rw [List.zipIdx_cons, List.filter_cons]
  split <;> rfl

theorem mem_whitePlaces {place index : Nat} {tokens : List Token} :
    index ∈ whitePlaces place tokens ↔
      place ≤ index ∧ ∃ token, tokens[index - place]? = some token ∧ token.isWhite = true := by
  unfold whitePlaces
  rw [List.mem_map]
  constructor
  · rintro ⟨⟨token, _⟩, member, rfl⟩
    obtain ⟨found, white⟩ := List.mem_filter.mp member
    obtain ⟨bound, here⟩ := List.mk_mem_zipIdx_iff_le_and_getElem?_sub.mp found
    exact ⟨bound, token, here, white⟩
  · rintro ⟨bound, token, here, white⟩
    exact ⟨(token, index), List.mem_filter.mpr
      ⟨List.mk_mem_zipIdx_iff_le_and_getElem?_sub.mpr ⟨bound, here⟩, white⟩, rfl⟩

end Token

namespace LineMarks

/-- A line after some tokens, the first of which stands at a place. -/
def run (line : LineMarks) (place : Nat) : List Token → LineMarks
  | [] => line
  | token :: rest => run (line.after place token) (place + 1) rest

theorem after_eq (line : LineMarks) (place : Nat) (token : Token) :
    line.after place token =
      ⟨if token.isWhite then place :: line.blanks else line.blanks,
        line.hasTag || !token.isText, line.hasInk || token.isSolid⟩ := by
  cases token with
  | text span =>
    by_cases ink : (Token.text span).isInk = true
    · simp [after, Token.isWhite, Token.isSolid, Token.isText, ink]
    · simp [after, Token.isWhite, Token.isSolid, Token.isText, Token.isInterpolation, ink]
  | _ => simp [after, Token.isWhite, Token.isSolid, Token.isText, Token.isInk]

/-- **The marks say what a line holds**: where its blank texts are, whether it has a tag, and
whether it has what no standalone line holds. -/
theorem run_eq (line : LineMarks) (place : Nat) (tokens : List Token) :
    line.run place tokens =
      ⟨(Token.whitePlaces place tokens).reverse ++ line.blanks,
        line.hasTag || tokens.any fun token => !token.isText,
        line.hasInk || tokens.any Token.isSolid⟩ := by
  induction tokens generalizing line place with
  | nil =>
    rw [List.any_nil, List.any_nil, Bool.or_false, Bool.or_false]
    rfl
  | cons token rest hypothesis =>
    rw [run, hypothesis, after_eq, Token.whitePlaces_cons, List.any_cons, List.any_cons,
      Bool.or_assoc, Bool.or_assoc]
    by_cases white : token.isWhite = true
    · simp only [white, if_true, List.reverse_cons, List.append_assoc, List.singleton_append]
    · simp only [white, if_false, Bool.false_eq_true]

end LineMarks

namespace Token

theorem isSolid_eq_false {token : Token} :
    token.isSolid = false ↔ (∀ span, token = text span → Text.Blank span.value.toList) ∧
      token.kind ≠ .name ∧ token.kind ≠ .unescaped := by
  cases token with
  | text span => simp [isSolid, isInk, isInterpolation, kind, Text.Blank]
  | interpolation escaped _ => cases escaped <;> simp [isSolid, isInterpolation, kind]
  | block inverted _ _ _ => cases inverted <;> simp [isSolid, isInk, isInterpolation, kind]
  | _ => simp [isSolid, isInk, isInterpolation, kind]

/-- A standalone line as its marks tell it. -/
theorem standalone_iff (line : List Token) :
    Standalone line ↔
      (line.any (fun token => !token.isText) && !line.any isSolid) = true := by
  rw [Bool.and_eq_true, List.any_eq_true, Bool.not_eq_true', List.any_eq_false]
  simp only [Bool.not_eq_true', Bool.not_eq_true, isSolid_eq_false]
  constructor
  · rintro ⟨tag, blank, plain⟩
    exact ⟨tag, fun token member => ⟨fun span same => blank span (same ▸ member),
      plain token member⟩⟩
  · rintro ⟨tag, soft⟩
    exact ⟨tag, fun span member => (soft _ member).1 span rfl,
      fun token member => (soft token member).2⟩

instance : DecidablePred Standalone := fun line => decidable_of_iff _ (standalone_iff line).symm

theorem Standalone.isWhite {line : List Token} (standalone : Standalone line) {token : Token}
    (member : token ∈ line) (text : token.isText = true) : token.isWhite = true := by
  have soft := (isSolid_eq_false.mpr ⟨fun span same => standalone.blank span (same ▸ member),
    standalone.plain token member⟩)
  unfold isSolid at soft
  unfold Token.isWhite
  rw [text, (Bool.or_eq_false_iff.mp soft).1]
  rfl

/-- What is stripped on some lines, the first of which starts at a place. -/
def strippedOn (place : Nat) : List (List Token) → List Nat
  | [] => []
  | line :: rest =>
    (if Standalone line then whitePlaces place line else []) ++
      strippedOn (place + line.length) rest

end Token

theorem LineMarks.stripped_run (place : Nat) (line : List Token) :
    (LineMarks.run {} place line).stripped =
      (if Token.Standalone line then Token.whitePlaces place line else []).reverse := by
  unfold stripped
  rw [run_eq]
  simp only [Bool.false_or, List.append_nil]
  by_cases standalone : Token.Standalone line
  · rw [if_pos standalone, if_pos ((Token.standalone_iff line).mp standalone)]
  · rw [if_neg standalone, if_neg fun marks => standalone ((Token.standalone_iff line).mpr marks)]
    rfl

/-! ### One line after the other -/

namespace Stripping

/-- A line that has just ended is empty, and ending it once more changes nothing. -/
theorem endLine_endLine (stripping : Stripping) : stripping.endLine.endLine = stripping.endLine :=
  rfl

theorem run_append (stripping : Stripping) (place : Nat) (first second : List Token) :
    stripping.run place (first ++ second) =
      (stripping.run place first).run (place + first.length) second := by
  induction first generalizing stripping place with
  | nil => rfl
  | cons token rest hypothesis =>
    rw [List.cons_append, run, hypothesis, List.length_cons, Nat.add_assoc, Nat.add_comm 1]
    rfl

/-- **One line**, with a line feed at its end or none. -/
theorem endLine_run {line : List Token}
    (chain : line.IsChain fun token _ => token.isNewline = false) (places : List Nat)
    (marks : LineMarks) (place : Nat) :
    (run ⟨places, marks⟩ place line).endLine =
      ⟨(marks.run place line).stripped ++ places, {}⟩ := by
  induction chain generalizing marks place with
  | nil => rfl
  | singleton token =>
    show (after ⟨places, marks⟩ place token).endLine = _
    unfold after
    by_cases newline : token.isNewline = true
    · rw [if_pos newline, endLine_endLine]
      rfl
    · rw [if_neg newline]
      rfl
  | @cons_cons token next rest black _ hypothesis =>
    have step : after ⟨places, marks⟩ place token = ⟨places, marks.after place token⟩ :=
      if_neg (by rw [black]; exact Bool.false_ne_true)
    rw [run, step, hypothesis]
    rfl

/-- A line with a line feed at its end has ended. -/
theorem run_newline {line : List Token} (stripping : Stripping) (place : Nat)
    (nonempty : line ≠ []) (newline : (line.getLast nonempty).isNewline = true) :
    (stripping.run place line).endLine = stripping.run place line := by
  have ended : ∀ (here : Stripping) (index : Nat),
      (here.after index (line.getLast nonempty)).endLine =
        here.after index (line.getLast nonempty) := fun here index => by
    unfold after
    rw [if_pos newline, endLine_endLine]
  have parts := stripping.run_append place line.dropLast [line.getLast nonempty]
  rw [List.dropLast_append_getLast nonempty] at parts
  rw [parts]
  exact ended _ _

/-- **What is stripped, one line after the other.** -/
theorem run_lines {lines : List (List Token)} (places : List Nat) (place : Nat)
    (ended : lines.IsChain fun line _ => ∃ nonempty, (line.getLast nonempty).isNewline = true)
    (chains : ∀ line ∈ lines, line.IsChain fun token _ => token.isNewline = false) :
    (run ⟨places, {}⟩ place lines.flatten).endLine.places =
      (Token.strippedOn place lines).reverse ++ places := by
  induction lines generalizing places place with
  | nil => rfl
  | cons line rest hypothesis =>
    have here := endLine_run (chains line List.mem_cons_self) places {} place
    rw [LineMarks.stripped_run] at here
    rw [List.flatten_cons, run_append, Token.strippedOn, List.reverse_append, List.append_assoc]
    have later := fun places => hypothesis places (place + line.length) ended.tail
      fun other member => chains other (List.mem_cons_of_mem _ member)
    -- the last line may lack a line feed, and is ended by the end of the tokens
    cases rest with
    | nil =>
      show (run ⟨places, {}⟩ place line).endLine.places = _
      rw [here]
      rfl
    | cons next more =>
      obtain ⟨nonempty, newline⟩ := (List.isChain_cons_cons.mp ended).1
      rw [← run_newline _ _ nonempty newline, here, later]

end Stripping

namespace Token

/-- Each line but the last one ends with a line feed. -/
theorem isChain_lines (tokens : List Token) :
    (lines tokens).IsChain fun line _ => ∃ nonempty, (line.getLast nonempty).isNewline = true :=
  (List.isChain_getLast_head_splitBy _ tokens).imp fun _ _ ⟨nonempty, _, newline⟩ =>
    ⟨nonempty, by simpa using newline⟩

/-- Only the last token of a line is a line feed. -/
theorem isChain_of_mem_lines {tokens line : List Token} (member : line ∈ lines tokens) :
    line.IsChain fun token _ => token.isNewline = false :=
  (List.isChain_of_mem_splitBy member).imp fun _ _ other => by simpa using other

theorem strippedIndexes_eq (tokens : List Token) :
    strippedIndexes tokens = strippedOn 0 (lines tokens) := by
  have whole := Stripping.run_lines [] 0 (isChain_lines tokens)
    fun line member => isChain_of_mem_lines member
  rw [lines, List.flatten_splitBy, List.append_nil] at whole
  unfold strippedIndexes Stripping.result
  rw [whole, List.reverse_reverse]
  rfl

/-! ### The places on one line -/

/-- A place that is stripped holds a blank text. -/
theorem getElem?_of_mem_strippedOn {place index : Nat} {lines : List (List Token)}
    (member : index ∈ strippedOn place lines) :
    place ≤ index ∧ ∃ token, lines.flatten[index - place]? = some token ∧
      token.isWhite = true := by
  induction lines generalizing place with
  | nil => cases member
  | cons line rest hypothesis =>
    rw [List.flatten_cons]
    rcases List.mem_append.mp member with here | later
    · have white : index ∈ whitePlaces place line := by
        split at here
        · exact here
        · cases here
      obtain ⟨bound, token, found, blank⟩ := mem_whitePlaces.mp white
      obtain ⟨inside, _⟩ := List.getElem?_eq_some_iff.mp found
      exact ⟨bound, token, by rw [List.getElem?_append_left inside, found], blank⟩
    · obtain ⟨bound, token, found, blank⟩ := hypothesis later
      refine ⟨by omega, token, ?_, blank⟩
      rw [List.getElem?_append_right (by omega), Nat.sub_sub, found]

/-- The places that are stripped on the first of some lines. -/
theorem mem_strippedOn_cons {place position : Nat} {line : List Token} {rest : List (List Token)}
    {token : Token} (here : (line)[position]? = some token) :
    place + position ∈ strippedOn place (line :: rest) ↔
      token.isWhite = true ∧ Standalone line := by
  obtain ⟨inside, _⟩ := List.getElem?_eq_some_iff.mp here
  rw [strippedOn, List.mem_append]
  constructor
  · rintro (member | later)
    · split at member
      · rename_i standalone
        obtain ⟨_, other, found, white⟩ := mem_whitePlaces.mp member
        rw [Nat.add_sub_cancel_left, here] at found
        cases found
        exact ⟨white, standalone⟩
      · cases member
    · have bound := (getElem?_of_mem_strippedOn later).1
      omega
  · rintro ⟨white, standalone⟩
    refine Or.inl ?_
    rw [if_pos standalone]
    exact mem_whitePlaces.mpr ⟨by omega, token, by rwa [Nat.add_sub_cancel_left], white⟩

/-- Nothing is stripped on the first of some lines behind its end. -/
theorem mem_strippedOn_append {place index : Nat} {line : List Token} {rest : List (List Token)}
    (behind : place + line.length ≤ index) :
    index ∈ strippedOn place (line :: rest) ↔
      index ∈ strippedOn (place + line.length) rest := by
  rw [strippedOn, List.mem_append, or_iff_right]
  intro member
  split at member
  · obtain ⟨_, other, found, _⟩ := mem_whitePlaces.mp member
    obtain ⟨bound, _⟩ := List.getElem?_eq_some_iff.mp found
    omega
  · cases member

/-- **The places that are stripped on one line** among others. -/
theorem mem_strippedOn {place position : Nat} {before after : List (List Token)}
    {line : List Token} {token : Token} (here : (line)[position]? = some token) :
    place + before.flatten.length + position ∈ strippedOn place (before ++ line :: after) ↔
      token.isWhite = true ∧ Standalone line := by
  induction before generalizing place with
  | nil => exact mem_strippedOn_cons here
  | cons first rest hypothesis =>
    have shift : place + (first :: rest).flatten.length + position =
        place + first.length + rest.flatten.length + position := by
      rw [List.flatten_cons, List.length_append]
      omega
    rw [shift, List.cons_append, mem_strippedOn_append (by omega), hypothesis]

/-- **The places that are stripped on one line** of some tokens. -/
theorem mem_strippedIndexes {tokens line : List Token} {before after : List (List Token)}
    {position : Nat} {token : Token} (split : lines tokens = before ++ line :: after)
    (here : (line)[position]? = some token) :
    before.flatten.length + position ∈ strippedIndexes tokens ↔
      token.isWhite = true ∧ Standalone line := by
  have places : 0 + before.flatten.length + position ∈ strippedOn 0 (before ++ line :: after) ↔
      token.isWhite = true ∧ Standalone line := mem_strippedOn here
  rwa [Nat.zero_add, ← split, ← strippedIndexes_eq] at places

theorem mem_of_mem_lines {tokens line : List Token} {before after : List (List Token)}
    (split : lines tokens = before ++ line :: after) {token : Token} (member : token ∈ line) :
    token ∈ tokens := by
  have inside : line ∈ lines tokens := by
    rw [split]
    exact List.mem_append_right _ List.mem_cons_self
  rw [← List.flatten_splitBy (fun token _ => !token.isNewline) tokens]
  exact List.mem_flatten.mpr ⟨line, inside, member⟩

/-- As each text is one character, the blank texts are the blanks. -/
theorem Covers.isWhite_iff {delimiters : Delimiters} {template : List Char} {tokens : List Token}
    (covers : Covers delimiters 0 template tokens) {token : Token} (member : token ∈ tokens) :
    token.isWhite = true ↔ token.IsBlank := by
  constructor
  · intro white
    cases token with
    | text span =>
      obtain ⟨before, after, rfl⟩ := List.append_of_mem member
      obtain ⟨_, char, _, value, _⟩ := covers.at_text
      refine ⟨char, span, rfl, value, ?_⟩
      simpa [isWhite, isText, isInk, value] using white
    | _ => cases white
  · rintro ⟨char, span, rfl, value, blank⟩
    simp [isWhite, isText, isInk, value, blank]

end Token

/-! ### Templates -/

variable {delimiters : Delimiters} {template : String}

/-- **What is stripped is the text on the standalone lines**, and nothing else. -/
theorem stripsLines_of_ofTemplate {reading : Reading}
    (read : Reading.ofTemplate delimiters template = .ok reading) :
    Token.StripsLines reading.tokens.toList reading.stripped := by
  have covers := Token.covers_tokenize (Reading.tokenize_eq read)
  rw [Reading.stripped_eq read]
  generalize reading.tokens.toList = tokens at covers
  have place : ∀ before line after, Token.lines tokens = before ++ line :: after →
      ∀ (position : Nat) token, (line)[position]? = some token →
        (before.flatten.length + position ∈ Token.strippedIndexes tokens ↔
          token.IsBlank ∧ Token.Standalone line) := by
    intro before line after split position token here
    rw [Token.mem_strippedIndexes split here,
      covers.isWhite_iff (Token.mem_of_mem_lines split (List.mem_of_getElem? here))]
  refine { place := place, blank := ?_, line := ?_ }
  · intro index member
    rw [Token.strippedIndexes_eq] at member
    obtain ⟨_, token, here, blank⟩ := Token.getElem?_of_mem_strippedOn member
    rw [Token.lines, List.flatten_splitBy, Nat.sub_zero] at here
    exact ⟨token, here, (covers.isWhite_iff (List.mem_of_getElem? here)).mp blank⟩
  · intro before line after split
    by_cases standalone : Token.Standalone line
    · refine Or.inl fun position token here text => ?_
      exact (Token.mem_strippedIndexes split here).mpr
        ⟨standalone.isWhite (List.mem_of_getElem? here) text, standalone⟩
    · refine Or.inr fun position inside stripped => ?_
      exact standalone ((place before line after split position _
        (List.getElem?_eq_getElem inside)).mp stripped).2

/-- A section whose tags stand on lines of their own. -/
def Token.standaloneTemplate : String :=
  "\t\x7b\x7b#a\n\x7d\x7d \n \x7b\x7ba\x7d\x7d\n\x7b\x7b/a\x7d\x7d "

theorem stripsLines_of_ofTemplate_section :
    ∃ reading, Reading.ofTemplate .standard Token.standaloneTemplate = .ok reading ∧
      reading.stripped = [0, 2, 3, 8] ∧
      Token.StripsLines reading.tokens.toList reading.stripped := by
  have stripped : (Reading.ofTemplate .standard Token.standaloneTemplate).toOption.map
      Reading.stripped = some [0, 2, 3, 8] := by decide +kernel
  obtain ⟨reading, read, same⟩ := exists_ok_of_toOption_map stripped
  exact ⟨reading, read, same, stripsLines_of_ofTemplate read⟩

end Mustache
