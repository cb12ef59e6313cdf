import Mustache.Proofs.FaithfulTree
import Mustache.Proofs.IndentedText
import Mustache.Proofs.Joining

/-!
**Templates that are indented.**

An indented template has the tokens of the template, with the indentation in the contents of its
tags and as texts before its lines. So its sections are balanced just as before, its delimiters
change in the same way, and each partial tag stands on a line that holds the indentation before
everything else. Partials in partials are therefore indented twice.

* `Token.Indented`: the tokens of a text beside those of the indented one.
* `indented_lex`: **lexing an indented text.**
* `Indented.balanced`, `Indented.getLast?_eq`, `Indented.partials_eq`: sections, line ends and
  partial tags.
* `WholeLines.indent`, `parse_indent`: **the tree of an indented template.**
-/

namespace Mustache

open Lexer

/-- An indentation: spaces and tabs. -/
abbrev Indentation := { text : List Char // ∀ char ∈ text, char = ' ' ∨ char = '\t' }

namespace Indentation

variable (indentation : Indentation)

theorem blank : Text.Blank indentation.val := by
  intro char member
  rcases indentation.property char member with rfl | rfl <;> decide +kernel

theorem newline_not_mem : '\n' ∉ indentation.val := by
  intro member
  rcases indentation.property '\n' member with same | same <;> cases same

/-- One indentation behind another. -/
instance : Append Indentation where
  append first second := ⟨first.val ++ second.val, fun char member =>
    (List.mem_append.mp member).elim (first.property char) (second.property char)⟩

/-- **A partial with the indentation before its lines.** -/
def indent (content : String) : String :=
  indentPartial content (String.ofList indentation.val) false

/-- All of it is kept where partials are indented. -/
theorem spacesAndTabs_eq : spacesAndTabs indentation.val = indentation.val := by
  refine List.filter_eq_self.mpr fun char member => ?_
  rcases indentation.property char member with rfl | rfl <;> rfl

end Indentation

/-- A line of a partial tag with an indentation before it. -/
def HostLine.indent (indentation : List Char) (line : HostLine) : HostLine :=
  { line with indentation := String.ofList indentation ++ line.indentation }

namespace Token

/-- **The tokens of a text beside those of the indented one**, from the start of a line on or from
within a line: before a line that is not empty stand the tokens of the indentation. -/
inductive Indented (indentation : List Char) : Bool → List Token → List Token → Prop
  | nil (start : Bool) : Indented indentation start [] []
  | lead {token : Token} {rest others : List Token} (place : Int) : token.isNewline = false →
      Indented indentation false (token :: rest) others →
      Indented indentation true (token :: rest) (textTokens place indentation ++ others)
  | newline {rest others : List Token} (start : Bool) (offset place : Int) :
      Indented indentation true rest others →
      Indented indentation start (charToken '\n' offset :: rest) (charToken '\n' place :: others)
  | char {char : Char} {rest others : List Token} (offset place : Int) : char ≠ '\n' →
      Indented indentation false rest others →
      Indented indentation false (charToken char offset :: rest) (charToken char place :: others)
  | tag {kind : Kind} {span place : Span} {rest others : List Token} : kind ≠ .text →
      place.value = Text.widen indentation span.value →
      Indented indentation false rest others →
      Indented indentation false (ofKind kind span :: rest) (ofKind kind place :: others)

end Token

/-! ### Lexing -/

/-- What is found in a text beside what is found in the indented one. -/
structure Lexed.Indented (indentation : List Char) (start : Bool) (lexed other : Lexed) :
    Prop where
  fault : other.fault = none
  delimiters : other.delimiters = lexed.delimiters
  tokens : Token.Indented indentation start lexed.tokens other.tokens

variable {delimiters : Delimiters}

theorem isNewline_ofKind {kind : Token.Kind} (tag : kind ≠ .text) (span : Span) :
    (Token.ofKind kind span).isNewline = false := by
  cases kind with
  | text => exact (tag rfl).elim
  | _ => rfl

theorem delimitersAfter?_spread {indentation : List Char} (blank : Text.Blank indentation)
    {kind : Token.Kind} {span place : Span}
    (same : place.value = Text.widen indentation span.value) :
    delimitersAfter? delimiters (.ofKind kind place) =
      delimitersAfter? delimiters (.ofKind kind span) := by
  cases kind with
  | delimiters =>
    show Delimiters.ofText? place.value = Delimiters.ofText? span.value
    rw [same, Delimiters.ofText?_spread blank]
  | _ => rfl

/-- A text that does not start with a line feed has a first token that is none. -/
theorem exists_head_lex {offset : Int} {char : Char} {rest : List Char} (plain : char ≠ '\n')
    (sound : (lex delimiters offset (char :: rest)).fault = none) :
    ∃ token more, (lex delimiters offset (char :: rest)).tokens = token :: more ∧
      token.isNewline = false := by
  have covers := covers_lex delimiters offset (char :: rest) sound
  generalize (lex delimiters offset (char :: rest)).tokens = tokens at covers
  generalize whole : char :: rest = text at covers
  cases covers with
  | nil => cases whole
  | text _ _ =>
    obtain ⟨rfl, _⟩ := List.cons.inj whole
    refine ⟨_, _, rfl, Bool.eq_false_iff.mpr fun newline => plain ?_⟩
    exact (isNewline_charToken char _).mp newline
  | @tag _ _ _ token _ _ _ tag _ _ _ _ =>
    refine ⟨_, _, rfl, ?_⟩
    cases token with
    | text span => exact (tag.kind_ne_text rfl).elim
    | _ => rfl

variable {indentation : List Char}

theorem Token.Indented.of_newline {tokens others : List Token}
    (indented : Indented indentation false tokens others)
    (newline : ∀ token ∈ tokens.head?, token.isNewline = true) :
    Indented indentation true tokens others := by
  cases indented with
  | nil => exact .nil true
  | newline _ _ _ later => exact .newline true _ _ later
  | char _ _ plain _ => exact (plain ((isNewline_charToken _ _).mp (newline _ rfl))).elim
  | @tag kind span _ _ _ tag _ _ =>
    have feed := newline _ rfl
    rw [isNewline_ofKind tag] at feed
    cases feed

section Lexing

variable (blank : Text.Blank indentation)

include blank

/-- **From the start of a line on** the indentation comes first, unless the line is empty. -/
theorem indented_lex_start (unbroken : delimiters.Unbroken) {offset : Int} {text : List Char}
    (sound : (lex delimiters offset text).fault = none)
    (within : ∀ place, Lexed.Indented indentation false (lex delimiters offset text)
      (lex delimiters place (Text.spread indentation text))) (place : Int) :
    Lexed.Indented indentation true (lex delimiters offset text)
      (lex delimiters place (Text.indent indentation text)) := by
  have word : Text.Unbroken delimiters.opening.toList := unbroken.opening
  cases text with
  | nil =>
    rw [lex_nil]
    show Lexed.Indented indentation true _ (lex delimiters place [])
    rw [lex_nil]
    exact ⟨rfl, rfl, .nil true⟩
  | cons char rest =>
    by_cases feed : char = '\n'
    · subst feed
      obtain ⟨fault, inForce, tokens⟩ := within place
      have white : Text.isBlank '\n' = true := by decide +kernel
      have first : ∀ token ∈ (lex delimiters offset ('\n' :: rest)).tokens.head?,
          token.isNewline = true := by
        rw [lex_blank unbroken white]
        rintro token member
        cases member
        rfl
      rw [Text.indent, Text.lead, if_pos rfl, List.nil_append]
      exact ⟨fault, inForce, tokens.of_newline first⟩
    · obtain ⟨token, more, split, first⟩ := exists_head_lex feed sound
      have absent := Text.absent_blank word.inkFirst delimiters.opening_toList_ne blank
        (Text.spread indentation (char :: rest))
      obtain ⟨fault, inForce, tokens⟩ := within (place + Int.ofNat indentation.length)
      rw [Text.indent, Text.lead, if_neg feed, lex_skip absent]
      refine ⟨fault, inForce, ?_⟩
      rw [split] at tokens ⊢
      exact .lead place first tokens

/-- **Lexing an indented text**, from within a line on. -/
theorem indented_lex (unbroken : delimiters.Unbroken) {offset : Int} {text : List Char}
    (sound : (lex delimiters offset text).fault = none) (place : Int) :
    Lexed.Indented indentation false (lex delimiters offset text)
      (lex delimiters place (Text.spread indentation text)) := by
  induction delimiters, offset, text using lex_induction generalizing place with
  | nil delimiters offset =>
    show Lexed.Indented indentation false _ (lex delimiters place [])
    rw [lex_nil, lex_nil]
    exact ⟨rfl, rfl, .nil false⟩
  | char delimiters offset char rest plain hypothesis =>
    have word : Text.Unbroken delimiters.opening.toList := unbroken.opening
    have plainer : ¬ delimiters.opening.toList <+: Text.spread indentation (char :: rest) :=
      mt (word.prefix_spread (char :: rest)).mp plain
    rw [lex_char plain] at sound ⊢
    by_cases feed : char = '\n'
    · subst feed
      rw [Text.spread_newline] at plainer ⊢
      rw [lex_char plainer]
      obtain ⟨fault, inForce, tokens⟩ :=
        indented_lex_start blank unbroken sound (hypothesis unbroken sound) (place + 1)
      exact ⟨fault, inForce, .newline false offset place tokens⟩
    · rw [Text.spread_cons feed] at plainer ⊢
      rw [lex_char plainer]
      obtain ⟨fault, inForce, tokens⟩ := hypothesis unbroken sound (place + 1)
      exact ⟨fault, inForce, .char offset place feed tokens⟩
  | tag delimiters offset text token rest next opens read change hypothesis =>
    have word : Text.Unbroken delimiters.opening.toList := unbroken.opening
    obtain ⟨_, _, _, _, source⟩ := tagText_of_readTag? opens read
    obtain ⟨kind, span, stop, rfl, further⟩ := readTag?_spread unbroken blank opens read place
    have tag := source.kind_ne_text
    rw [kind_ofKind] at tag
    rw [lex_tag opens read change] at sound ⊢
    rw [lex_tag ((word.prefix_spread text).mpr opens) further
      ((delimitersAfter?_spread blank rfl).trans change), @span_ofKind _ ⟨_, place, stop⟩]
    obtain ⟨fault, inForce, tokens⟩ :=
      hypothesis (unbroken.delimitersAfter? change) sound stop
    exact ⟨fault, inForce, .tag tag rfl tokens⟩
  | unclosed delimiters offset text opens read =>
    rw [lex_unclosed opens read] at sound
    cases sound
  | invalid delimiters offset text token rest opens read change =>
    rw [lex_invalid opens read change] at sound
    cases sound

end Lexing

/-! ### Sections, line ends and partial tags -/

namespace Token

theorem balanced_textTokens (offset : Int) (run : List Char) :
    Balanced (textTokens offset run) := by
  induction run generalizing offset with
  | nil => exact .nil
  | cons char rest hypothesis => exact .leaf rfl (hypothesis (offset + 1))

namespace Indented

variable {start : Bool} {tokens others : List Token}

/-- **Sections are opened and closed as before**, each under its name with the indentation in it. -/
theorem openAfter_eq (indented : Indented indentation start tokens others)
    {opened images : List Span}
    (names : images.map Span.value =
      opened.map fun span => Text.widen indentation span.value)
    (closed : openAfter opened tokens = .ok []) : openAfter images others = .ok [] := by
  induction indented generalizing opened images with
  | nil =>
    obtain rfl : opened = [] := Except.ok.inj closed
    obtain rfl := List.map_eq_nil_iff.mp names
    rfl
  | lead place _ _ hypothesis =>
    rw [(balanced_textTokens place indentation).openAfter_append]
    exact hypothesis names closed
  | newline _ _ _ _ hypothesis => exact hypothesis names closed
  | char _ _ _ _ hypothesis => exact hypothesis names closed
  | @tag kind span place rest others tag same _ hypothesis =>
    have block : ∀ {opened images : List Span}, images.map Span.value =
        opened.map (fun span => Text.widen indentation span.value) →
          (place :: images).map Span.value = (span :: opened).map fun span =>
            Text.widen indentation span.value := fun names => by
      rw [List.map_cons, List.map_cons, names, same]
    cases kind with
    | plainSection => exact hypothesis (block names) closed
    | invertedSection => exact hypothesis (block names) closed
    | close =>
      cases opened with
      | nil => cases closed
      | cons innermost outer =>
        cases images with
        | nil => cases names
        | cons image more =>
          obtain ⟨first, later⟩ := List.cons.inj names
          by_cases fits : innermost.value = span.value
          · have closes : place.value = image.value := by
              rw [same, ← fits]
              exact first.symm
            change openAfter _ (close span :: rest) = _ at closed
            show openAfter _ (close place :: others) = _
            rw [openAfter_close fits.symm] at closed
            rw [openAfter_close closes]
            exact hypothesis later closed
          · change openAfter _ (close span :: rest) = _ at closed
            rw [openAfter, if_neg fits] at closed
            cases closed
    | text => exact (tag rfl).elim
    | _ => exact hypothesis names closed

theorem balanced (indented : Indented indentation start tokens others)
    (balanced : Balanced tokens) : Balanced others :=
  (balanced_iff others).mpr (indented.openAfter_eq rfl ((balanced_iff tokens).mp balanced))

/-- **The last tokens** are line feeds together. -/
theorem getLast?_eq (indented : Indented indentation start tokens others) :
    others.getLast?.map isNewline = tokens.getLast?.map isNewline := by
  have step : ∀ {token image : Token} {rest others : List Token},
      image.isNewline = token.isNewline →
      others.getLast?.map isNewline = rest.getLast?.map isNewline →
      (image :: others).getLast?.map isNewline = (token :: rest).getLast?.map isNewline := by
    intro token image rest others here later
    rw [List.getLast?_cons, List.getLast?_cons, Option.map_some, Option.map_some,
      ← Option.getD_map isNewline, ← Option.getD_map isNewline, here, later]
  induction indented with
  | nil => rfl
  | @lead token rest others place _ _ hypothesis =>
    obtain ⟨last, ended, _⟩ : ∃ last, others.getLast? = some last ∧ _ := by
      rw [List.getLast?_cons, Option.map_some] at hypothesis
      exact Option.map_eq_some_iff.mp hypothesis
    rw [List.getLast?_append, ended, Option.some_or, ← hypothesis, ended]
  | newline _ _ _ _ hypothesis => exact step rfl hypothesis
  | char _ _ _ _ hypothesis => exact step rfl hypothesis
  | tag tag _ _ hypothesis =>
    exact step ((isNewline_ofKind tag _).trans (isNewline_ofKind tag _).symm) hypothesis

end Indented

/-- **The partial tags of some tokens**: their names and their lines. -/
def partials (tokens : List Token) : List (String × HostLine) :=
  tokens.filterMap fun
    | partialTag span host => some (span.value, host)
    | _ => none

theorem annotate_texts (line : HostLine) (place : Int) (run : List Char) :
    annotate line (textTokens place run) = textTokens place run := by
  induction run generalizing line place with
  | nil => rfl
  | cons char run hypothesis => exact congrArg _ (hypothesis _ _)

theorem partials_texts (line : HostLine) (place : Int) (run : List Char) (rest : List Token) :
    partials (annotate line (textTokens place run ++ rest)) =
      partials (annotate ((textTokens place run).foldl HostLine.after line) rest) := by
  induction run generalizing line place with
  | nil => rfl
  | cons char run hypothesis => exact hypothesis _ _

end Token

namespace HostLine

theorem after_charToken (line : HostLine) (char : Char) (place : Int) :
    line.after (charToken char place) = line.afterChar char := by
  show (String.singleton char).toList.foldl HostLine.afterChar line = _
  rw [String.toList_singleton]
  rfl

/-- Blanks are kept as they are. -/
theorem foldl_blank {run : List Char} (white : Text.Blank run) (single : '\n' ∉ run)
    (line : HostLine) (place : Int) :
    (textTokens place run).foldl HostLine.after line =
      { line with indentation := line.indentation ++ String.ofList run } := by
  induction run generalizing line place with
  | nil =>
    show line = _
    rw [String.ofList_nil, String.append_empty]
  | cons char rest hypothesis =>
    obtain ⟨here, later⟩ := List.forall_mem_cons.mp white
    have plain : char ≠ '\n' := fun same => single (same ▸ List.mem_cons_self)
    have first : line.after (charToken char place) =
        { line with indentation := line.indentation.push char } := by
      rw [after_charToken, afterChar, if_neg plain, here]
      simp
    rw [textTokens, List.foldl_cons]
    show (textTokens _ rest).foldl HostLine.after (line.after (charToken char place)) = _
    rw [hypothesis later (fun member => single (List.mem_cons_of_mem _ member)), first]
    congr 1
    apply String.toList_inj.mp
    simp

/-- The indentation stays before whatever comes on the line. -/
theorem afterChar_indent {char : Char} (plain : char ≠ '\n') (line : HostLine) :
    (line.indent indentation).afterChar char = (line.afterChar char).indent indentation := by
  unfold afterChar indent
  rw [if_neg plain, if_neg plain]
  congr 1
  apply String.toList_inj.mp
  simp

/-- The line of a text beside that of the indented one, at its start or within it. -/
inductive Indented (indentation : List Char) : Bool → HostLine → HostLine → Prop
  | start : Indented indentation true {} {}
  | within (line : HostLine) : Indented indentation false line (line.indent indentation)

end HostLine

namespace Token

/-- **The partial tags of an indented text** have the indentation in their names and before
everything else on their lines. -/
theorem Indented.partials_eq {start : Bool} {tokens others : List Token}
    (indented : Indented indentation start tokens others) (blank : Text.Blank indentation)
    (single : '\n' ∉ indentation) {line image : HostLine}
    (beside : HostLine.Indented indentation start line image) :
    partials (annotate image others) = (partials (annotate line tokens)).map fun tag =>
      (Text.widen indentation tag.1, tag.2.indent indentation) := by
  induction indented generalizing line image with
  | nil => rfl
  | lead place _ _ hypothesis =>
    cases beside
    have led : (textTokens place indentation).foldl HostLine.after {} =
        ({} : HostLine).indent indentation := by
      rw [HostLine.foldl_blank blank single, HostLine.indent, String.append_empty,
        String.empty_append]
    rw [partials_texts, led]
    exact hypothesis (.within {})
  | newline start offset place _ hypothesis =>
    refine hypothesis ?_
    rw [@HostLine.after_newline (charToken '\n' offset) rfl,
      @HostLine.after_newline (charToken '\n' place) rfl]
    exact .start
  | char offset place plain _ hypothesis =>
    cases beside
    refine hypothesis ?_
    rw [HostLine.after_charToken, HostLine.after_charToken, HostLine.afterChar_indent plain]
    exact .within _
  | @tag kind span place rest others tag same _ hypothesis =>
    cases beside
    have later := @hypothesis { line with tagIndex := line.tagIndex + 1 } _ (.within _)
    cases kind with
    | text => exact (tag rfl).elim
    | partialTag =>
      show (place.value, line.indent indentation) :: _ =
        (Text.widen indentation span.value, line.indent indentation) :: _
      rw [same]
      exact congrArg _ later
    | _ => exact later

theorem partials_filter {left : Token → Bool}
    (tags : ∀ span host, left (.partialTag span host) = true) (tokens : List Token) :
    partials (tokens.filter left) = partials tokens := by
  unfold partials
  rw [List.filterMap_filter]
  congr 1
  funext token
  cases token with
  | partialTag span host => rw [if_pos (tags span host)]
  | _ => exact ite_self _

/-- **The partial tags of a tree** are those of its template. -/
theorem partials_preorder {delimiters : Delimiters} {template : String} {tokens : List Token}
    (read : tokenize delimiters template = .ok tokens) :
    partials (preorder (arrange (strippedIndexes tokens) tokens)) = partials tokens := by
  have bare : ∀ tokens : List Token, partials (tokens.map Token.bare) = partials tokens := by
    intro tokens
    unfold partials
    rw [List.filterMap_map]
    congr 1
    funext token
    cases token <;> rfl
  have tags : ∀ tokens : List Token,
      partials (tokens.filter fun token => !token.isText) = partials tokens :=
    partials_filter fun _ _ => rfl
  rw [(nests_of_tokenize read).preorder_eq, bare, partials_filter fun _ _ => rfl, ← tags,
    filter_squash, filter_keep, tags]

/-- The lines of partial tags do not bear on the last token. -/
theorem getLast?_annotate (line : HostLine) (tokens : List Token) :
    (annotate line tokens).getLast?.map isNewline = tokens.getLast?.map isNewline := by
  have same : (annotate line tokens).map isNewline = tokens.map isNewline := by
    induction tokens generalizing line with
    | nil => rfl
    | cons token rest hypothesis =>
      rw [annotate, List.map_cons, List.map_cons, onLine_isNewline, hypothesis]
  rw [← List.getLast?_map, same, List.getLast?_map]

/-- Tokens end with a line feed if others do whose last token is of the same sort. -/
theorem newline_of_getLast?_eq {tokens others : List Token}
    (same : others.getLast?.map isNewline = tokens.getLast?.map isNewline)
    (ended : ∀ token ∈ tokens.getLast?, token.isNewline = true) :
    ∀ token ∈ others.getLast?, token.isNewline = true := by
  intro token member
  obtain ⟨other, inside, equal⟩ := Option.map_eq_some_iff.mp
    (same.symm.trans (congrArg (Option.map isNewline) member))
  rw [← equal, ended other inside]

end Token

/-! ### Templates -/

/-- **Whole lines, with the delimiters in force in the end that they began with**: a template that
is empty or ends with a line feed. -/
def WholeLines (delimiters : Delimiters) (template : String) : Prop :=
  ∃ reading, Reading.ofTemplate delimiters template = .ok reading ∧
    reading.delimiters = delimiters ∧
    ∀ token ∈ reading.tokens.toList.getLast?, token.isNewline = true

instance (delimiters : Delimiters) (template : String) :
    Decidable (WholeLines delimiters template) :=
  decidable_of_iff (∃ reading ∈ (Reading.ofTemplate delimiters template).toOption,
      reading.delimiters = delimiters ∧
        ∀ token ∈ reading.tokens.toList.getLast?, token.isNewline = true) <| by
    unfold WholeLines
    cases Reading.ofTemplate delimiters template with
    | ok reading => simp only [Except.toOption, Option.mem_some_iff, Except.ok.injEq]
    | error fault => simp only [Except.toOption, Option.not_mem_none, reduceCtorEq]

/-- Whole lines have a tree. -/
theorem WholeLines.exists_parse {template : String} (whole : WholeLines delimiters template) :
    ∃ tree, parse delimiters template = .ok tree := by
  obtain ⟨reading, read, _⟩ := whole
  exact ⟨_, parse_eq_ok_iff.mpr ⟨_, Reading.tokenize_eq read, rfl⟩⟩

section Templates

variable {template : String} (unbroken : delimiters.Unbroken) (indentation : Indentation)

theorem Indentation.toList_indent :
    (indentation.indent template).toList = Text.indent indentation.val template.toList := by
  rw [indent, toList_indentPartial, String.toList_ofList, indentation.spacesAndTabs_eq]

include unbroken

theorem indented_template (sound : (lex delimiters 0 template.toList).fault = none) :
    Lexed.Indented indentation.val true (lex delimiters 0 template.toList)
      (lex delimiters 0 (indentation.indent template).toList) := by
  rw [indentation.toList_indent]
  exact indented_lex_start indentation.blank unbroken sound
    (indented_lex indentation.blank unbroken sound) 0

/-- **Whole lines stay whole lines.** -/
theorem WholeLines.indent (whole : WholeLines delimiters template) :
    WholeLines delimiters (indentation.indent template) := by
  obtain ⟨reading, read, restored, ended⟩ := whole
  obtain ⟨sound, balanced, rfl⟩ :=
    Reading.ofText_eq_ok_iff.mp (Reading.ofTemplate_eq_ok_iff.mp read)
  obtain ⟨fault, inForce, tokens⟩ := indented_template unbroken indentation sound
  refine ⟨_, Reading.ofTemplate_eq_ok_iff.mpr
    (Reading.ofText_eq_ok_iff.mpr ⟨fault, tokens.balanced balanced, rfl⟩),
    inForce.trans restored, ?_⟩
  rw [Reading.after_tokens] at ended ⊢
  exact Token.newline_of_getLast?_eq ((Token.getLast?_annotate {} _).trans
    (tokens.getLast?_eq.trans (Token.getLast?_annotate {} _).symm)) ended

/-- **The tree of an indented template**: its partial tags are those of the template, with the
indentation in their names and before everything else on their lines. -/
theorem parse_indent {tree : List Token} (found : parse delimiters template = .ok tree) :
    ∃ image, parse delimiters (indentation.indent template) = .ok image ∧
      Token.partials (Token.preorder image) =
        (Token.partials (Token.preorder tree)).map fun tag =>
          (Text.widen indentation.val tag.1, tag.2.indent indentation.val) := by
  obtain ⟨tokens, read, rfl⟩ := parse_eq_ok_iff.mp found
  rw [Token.partials_preorder read]
  obtain ⟨sound, balanced, rfl⟩ := tokenize_eq_ok_iff.mp read
  obtain ⟨fault, _, indented⟩ := indented_template unbroken indentation sound
  have further := tokenize_eq_ok_iff.mpr ⟨fault, indented.balanced balanced, rfl⟩
  refine ⟨_, parse_eq_ok_iff.mpr ⟨_, further, rfl⟩, ?_⟩
  rw [Token.partials_preorder further]
  exact indented.partials_eq indentation.blank indentation.newline_not_mem .start

end Templates

end Mustache
