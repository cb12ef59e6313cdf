import Mustache.Proofs.Lines
import Mustache.Proofs.Locality
import Mustache.Render.Partials

/-!
**Tags of an indented text.**

A partial is indented line by line: behind each line feed the indentation comes in before the next
line, unless that is empty. This happens within tags as well. As no delimiter holds a blank, each
search of the lexer stops at the same place as without the indentation, so that a tag is read as a
tag of the same sort, with the indentation in its content.

* `Text.lead`, `Text.spread`, `Text.indent`: the indentation before a line, behind the line feeds of
  a text, and both.
* `toList_indentPartial`: what partials are indented to.
* `indent_append`: whole lines before another text.
* `afterBlanks_spread`, `scanUntil_spread`, `readContent_spread`: searches in an indented text.
* `lex_blank`: blanks before a tag.
* `readTag?_spread`: **one tag of an indented text.**
-/

namespace Mustache

namespace Text

/-! ### Indented texts -/

/-- The indentation before a line, unless the line is empty. -/
def lead (indentation : List Char) : List Char → List Char
  | [] => []
  | char :: _ => if char = '\n' then [] else indentation

/-- **A text with an indentation behind its line feeds.** -/
def spread (indentation : List Char) : List Char → List Char
  | [] => []
  | char :: rest =>
    if char = '\n' then char :: (lead indentation rest ++ spread indentation rest)
    else char :: spread indentation rest

/-- **A text with an indentation before each line** that is not empty. -/
def indent (indentation text : List Char) : List Char :=
  lead indentation text ++ spread indentation text

/-- A content with an indentation behind its line feeds. -/
def widen (indentation : List Char) (content : String) : String :=
  String.ofList (spread indentation content.toList)

variable {indentation : List Char}

theorem spread_newline (rest : List Char) :
    spread indentation ('\n' :: rest) = '\n' :: indent indentation rest := by
  rw [spread, if_pos rfl]
  rfl

theorem spread_cons {char : Char} (plain : char ≠ '\n') (rest : List Char) :
    spread indentation (char :: rest) = char :: spread indentation rest := by
  rw [spread, if_neg plain]

theorem head?_spread (text : List Char) : (spread indentation text).head? = text.head? := by
  cases text with
  | nil => rfl
  | cons char rest =>
    unfold spread
    split <;> rfl

theorem lead_append {text : List Char} (nonempty : text ≠ []) (more : List Char) :
    lead indentation (text ++ more) = lead indentation text := by
  cases text with
  | nil => exact (nonempty rfl).elim
  | cons char rest => rfl

/-- Without an indentation a text stays as it is. -/
theorem indent_nil (text : List Char) : indent [] text = text := by
  have none : ∀ text, lead [] text = [] := by
    intro text
    cases text with
    | nil => rfl
    | cons char rest => exact ite_self _
  unfold indent
  rw [none, List.nil_append]
  induction text with
  | nil => rfl
  | cons char rest hypothesis => rw [spread, none, List.nil_append, hypothesis, ite_self]

/-! ### One text behind another -/

/-- A text without line feeds stays as it is. -/
theorem spread_line {line : List Char} (single : '\n' ∉ line) (rest : List Char) :
    spread indentation (line ++ rest) = line ++ spread indentation rest := by
  induction line with
  | nil => rfl
  | cons char line hypothesis =>
    have plain : char ≠ '\n' := fun same => single (same ▸ List.mem_cons_self)
    rw [List.cons_append, spread_cons plain,
      hypothesis fun member => single (List.mem_cons_of_mem _ member)]
    rfl

theorem widen_line {content : String} (single : '\n' ∉ content.toList) :
    widen indentation content = content := by
  have same : spread indentation (content.toList ++ []) = content.toList ++ [] :=
    spread_line single []
  rw [List.append_nil] at same
  rw [widen, same, String.ofList_toList]

/-- Such a text with the indentation before it. -/
theorem indent_line {line : List Char} (single : '\n' ∉ line) (nonempty : line ≠ [])
    (rest : List Char) :
    indent indentation (line ++ rest) = indentation ++ (line ++ spread indentation rest) := by
  rw [indent, spread_line single, lead_append nonempty]
  obtain ⟨char, more, rfl⟩ := List.exists_cons_of_ne_nil nonempty
  have plain : char ≠ '\n' := fun same => single (same ▸ List.mem_cons_self)
  rw [lead, if_neg plain]

theorem spread_append_newline (passed second : List Char) :
    spread indentation (passed ++ ['\n'] ++ second) =
      spread indentation (passed ++ ['\n']) ++ indent indentation second := by
  induction passed using line_induction with
  | nil => exact spread_newline second
  | newline rest hypothesis =>
    rw [List.cons_append, List.cons_append, spread_newline, spread_newline, indent, indent,
      hypothesis, lead_append (List.append_ne_nil_of_right_ne_nil _ (List.cons_ne_nil _ _)),
      List.cons_append, List.append_assoc]
  | char char rest plain hypothesis =>
    rw [List.cons_append, List.cons_append, spread_cons plain, spread_cons plain, hypothesis]
    rfl

/-- **Whole lines are indented one after the other.** -/
theorem indent_append {first : List Char}
    (ended : ∀ char ∈ first.getLast?, char = '\n') (second : List Char) :
    indent indentation (first ++ second) =
      indent indentation first ++ indent indentation second := by
  rcases List.eq_nil_or_concat first with rfl | ⟨passed, last, whole⟩
  · rfl
  · rw [List.concat_eq_append] at whole
    subst whole
    obtain rfl := ended last List.getLast?_concat
    have nonempty : passed ++ ['\n'] ≠ [] :=
      List.append_ne_nil_of_right_ne_nil _ (List.cons_ne_nil _ _)
    rw [indent, indent, lead_append nonempty, spread_append_newline, List.append_assoc]

/-! ### First words -/

theorem takeWhile_spread {keep : Char → Bool} (feed : ¬ keep '\n' = true) (text : List Char) :
    (spread indentation text).takeWhile keep = text.takeWhile keep := by
  induction text using line_induction with
  | nil => rfl
  | newline rest _ =>
    rw [spread_newline, List.takeWhile_cons_of_neg feed, List.takeWhile_cons_of_neg feed]
  | char char rest plain hypothesis =>
    rw [spread_cons plain, List.takeWhile_cons, List.takeWhile_cons, hypothesis]

theorem dropWhile_spread {keep : Char → Bool} (feed : ¬ keep '\n' = true) (text : List Char) :
    (spread indentation text).dropWhile keep = spread indentation (text.dropWhile keep) := by
  induction text using line_induction with
  | nil => rfl
  | newline rest _ =>
    rw [spread_newline, List.dropWhile_cons_of_neg feed, List.dropWhile_cons_of_neg feed,
      spread_newline]
  | char char rest plain hypothesis =>
    rw [spread_cons plain, List.dropWhile_cons, List.dropWhile_cons, hypothesis]
    split
    · rfl
    · rw [spread_cons plain]

/-! ### Partials -/

/-- The first line of a text is empty just where no indentation comes before it. -/
theorem indentLine_first {text first : List Char} {more : List (List Char)}
    (same : splitLines text = first :: more) :
    indentLine indentation first = lead indentation text ++ first := by
  induction text using line_induction with
  | nil =>
    obtain ⟨rfl, _⟩ := List.cons.inj same
    rfl
  | newline rest _ =>
    rw [splitLines_newline] at same
    obtain ⟨rfl, _⟩ := List.cons.inj same
    rfl
  | char char rest plain _ =>
    obtain ⟨next, others, found⟩ := List.exists_cons_of_ne_nil (splitOn_ne_nil '\n' rest)
    rw [splitLines_plain plain found] at same
    obtain ⟨rfl, _⟩ := List.cons.inj same
    rw [lead, if_neg plain]
    rfl

/-- **The lines of a text are indented** as the text is, with or without the first one. -/
theorem joinLines_indentLines (text : List Char) :
    joinLines (indentLines indentation true (splitLines text)) = spread indentation text ∧
      joinLines (indentLines indentation false (splitLines text)) = indent indentation text := by
  -- the indented first line is told from the other, so that one induction is enough
  have first : ∀ text, joinLines (indentLines indentation true (splitLines text)) =
      spread indentation text →
        joinLines (indentLines indentation false (splitLines text)) = indent indentation text := by
    intro text kept
    obtain ⟨line, more, same⟩ := List.exists_cons_of_ne_nil (splitOn_ne_nil '\n' text)
    change splitLines text = line :: more at same
    rw [same] at kept ⊢
    show joinLines (indentLine indentation line :: more.map (indentLine indentation)) = _
    rw [indentLine_first same, joinLines_append]
    exact congrArg _ kept
  have spreads : joinLines (indentLines indentation true (splitLines text)) =
      spread indentation text := by
    induction text using line_induction with
    | nil => rfl
    | newline rest hypothesis =>
      have later := first rest hypothesis
      obtain ⟨line, more, same⟩ := List.exists_cons_of_ne_nil (splitOn_ne_nil '\n' rest)
      change splitLines rest = line :: more at same
      rw [splitLines_newline, spread_newline, ← later, same]
      exact joinLines_cons [] (List.cons_ne_nil _ _)
    | char char rest plain hypothesis =>
      obtain ⟨line, more, same⟩ := List.exists_cons_of_ne_nil (splitOn_ne_nil '\n' rest)
      rw [splitLines_plain plain same, spread_cons plain, ← hypothesis, splitLines, same]
      exact joinLines_append [char] line _
  exact ⟨spreads, first text spreads⟩

end Text

/-- **What partials are indented to.** -/
theorem toList_indentPartial (text indentation : String) :
    (indentPartial text indentation false).toList =
      Text.indent (spacesAndTabs indentation.toList) text.toList := by
  unfold indentPartial
  rw [String.toList_ofList]
  exact (Text.joinLines_indentLines text.toList).2

/-! ### Searches -/

section Searches

variable {indentation word : List Char} (blank : Text.Blank indentation)

namespace Text

/-- A text that does not start with a blank still does not. -/
theorem inkFirst_spread {text : List Char} (ink : InkFirst text) :
    InkFirst (spread indentation text) := by
  unfold InkFirst
  rw [head?_spread]
  exact ink

include blank

theorem blank_lead (text : List Char) : Blank (lead indentation text) := by
  cases text with
  | nil => exact blank_nil
  | cons char rest =>
    by_cases feed : char = '\n'
    · rw [lead, if_pos feed]
      exact blank_nil
    · rw [lead, if_neg feed]
      exact blank

/-- **Blanks stay blanks.** -/
theorem spread_blank {gap : List Char} (white : Blank gap) (rest : List Char) :
    ∃ wide, Blank wide ∧ (wide = [] ↔ gap = []) ∧
      spread indentation (gap ++ rest) = wide ++ spread indentation rest := by
  induction gap using line_induction with
  | nil => exact ⟨[], blank_nil, Iff.rfl, rfl⟩
  | newline gap hypothesis =>
    obtain ⟨here, later⟩ := List.forall_mem_cons.mp white
    obtain ⟨wide, all, _, same⟩ := hypothesis later
    refine ⟨'\n' :: (lead indentation (gap ++ rest) ++ wide), ?_, by simp, ?_⟩
    · exact List.forall_mem_cons.mpr ⟨here, (blank_lead blank _).append all⟩
    · rw [List.cons_append, spread_newline, indent, same, List.cons_append, List.append_assoc]
  | char char gap plain hypothesis =>
    obtain ⟨here, later⟩ := List.forall_mem_cons.mp white
    obtain ⟨wide, all, _, same⟩ := hypothesis later
    refine ⟨char :: wide, List.forall_mem_cons.mpr ⟨here, all⟩, by simp, ?_⟩
    rw [List.cons_append, spread_cons plain, same]
    rfl

theorem afterBlanks_spread (text : List Char) :
    afterBlanks (spread indentation text) = spread indentation (afterBlanks text) := by
  obtain ⟨wide, all, _, same⟩ :=
    spread_blank blank (blank_blankRun text) (afterBlanks text)
  rw [blankRun_append_afterBlanks] at same
  rw [same, afterBlanks_append_ink all (inkFirst_spread (inkFirst_afterBlanks text))]

end Text

end Searches

/-- A text that contains no blank. -/
def Text.Unbroken (text : List Char) : Prop := ∀ char ∈ text, isBlank char = false

namespace Text.Unbroken

variable {indentation word : List Char} (unbroken : Unbroken word)

include unbroken

theorem newline_not_mem : '\n' ∉ word := by
  intro member
  have white : isBlank '\n' = true := by decide +kernel
  rw [unbroken '\n' member] at white
  cases white

theorem inkFirst : InkFirst word := fun char member => unbroken char (List.mem_of_mem_head? member)

/-- No word begins with a blank. -/
theorem not_prefix_blank (nonempty : word ≠ []) {char : Char} (white : isBlank char = true)
    (rest : List Char) : ¬ word <+: char :: rest := by
  intro begins
  obtain ⟨first, more, rfl⟩ := List.exists_cons_of_ne_nil nonempty
  have black := unbroken first List.mem_cons_self
  rw [(List.cons_prefix_cons.mp begins).1, white] at black
  cases black

/-- **A word stands where it stood** in a text that is changed at its line feeds only, where it goes
on with a blank. -/
theorem prefix_changed {change : List Char → List Char} (nil : change [] = [])
    (newline : ∀ rest, ∃ blank more, isBlank blank = true ∧ change ('\n' :: rest) = blank :: more)
    (plain : ∀ char rest, char ≠ '\n' → change (char :: rest) = char :: change rest)
    (text : List Char) : word <+: change text ↔ word <+: text := by
  induction word generalizing text with
  | nil => simp
  | cons first word hypothesis =>
    have later := (List.forall_mem_cons.mp unbroken).2
    have nonempty := List.cons_ne_nil first word
    induction text using line_induction with
    | nil => rw [nil]
    | newline rest _ =>
      have white : isBlank '\n' = true := by decide +kernel
      obtain ⟨blank, more, also, same⟩ := newline rest
      rw [same]
      exact iff_of_false (unbroken.not_prefix_blank nonempty also more)
        (unbroken.not_prefix_blank nonempty white rest)
    | char char rest other _ =>
      rw [plain char rest other, List.cons_prefix_cons, List.cons_prefix_cons, hypothesis later]

theorem prefix_spread (text : List Char) : word <+: spread indentation text ↔ word <+: text := by
  have white : isBlank '\n' = true := by decide +kernel
  exact unbroken.prefix_changed rfl (fun rest => ⟨'\n', _, white, spread_newline rest⟩)
    (fun _ rest plain => spread_cons plain rest) text

/-- A word that is absent before some blanks is so before others. -/
theorem absent_gap {run gap wide : List Char} (white : Blank wide) (same : wide = [] ↔ gap = [])
    (absent : Absent word run (gap ++ word)) : Absent word run (wide ++ word) := by
  by_cases empty : gap = []
  · rw [same.mpr empty]
    rwa [empty] at absent
  · intro part suffix nonempty begins
    refine absent part suffix nonempty (List.IsPrefix.trans ?_ (List.prefix_append _ _))
    -- the word does not reach into the blanks
    by_cases short : word.length ≤ part.length
    · exact List.prefix_of_prefix_length_le begins (List.prefix_append _ _) short
    · obtain ⟨blank, more, rfl⟩ := List.exists_cons_of_ne_nil (mt same.mp empty)
      have reached : part ++ [blank] <+: word := by
        refine List.prefix_of_prefix_length_le ⟨more ++ word, ?_⟩ begins ?_
        · simp only [List.append_assoc, List.cons_append, List.nil_append]
        · rw [List.length_append, List.length_singleton]
          omega
      have black := unbroken blank (reached.subset (List.mem_append_right _ List.mem_cons_self))
      rw [white blank List.mem_cons_self] at black
      cases black

/-- A closing pattern matches where its word stands behind all the blanks. -/
theorem hits_closing (nonempty : word ≠ []) (text : List Char) :
    (Pattern.closing word).hits text = true ↔ word <+: afterBlanks text := by
  rw [Pattern.hits_closing]
  constructor
  · rintro ⟨blanks, rest, rfl, white⟩
    rw [afterBlanks_append_ink white (unbroken.inkFirst.append_of_ne nonempty rest)]
    exact List.prefix_append _ _
  · rintro ⟨rest, same⟩
    refine ⟨blankRun text, rest, ?_, blank_blankRun text⟩
    rw [same, blankRun_append_afterBlanks]

/-- Blanks before it make no difference to a closing pattern. -/
theorem hits_append (nonempty : word ≠ []) {gap : List Char} (white : Blank gap)
    (text : List Char) :
    (Pattern.closing word).hits (gap ++ text) = (Pattern.closing word).hits text := by
  rw [Bool.eq_iff_iff, unbroken.hits_closing nonempty, unbroken.hits_closing nonempty,
    afterBlanks_append white]

variable (blank : Blank indentation)

include blank

theorem hits_spread (nonempty : word ≠ []) (text : List Char) :
    (Pattern.closing word).hits (spread indentation text) = (Pattern.closing word).hits text := by
  rw [Bool.eq_iff_iff, unbroken.hits_closing nonempty, unbroken.hits_closing nonempty,
    afterBlanks_spread blank, unbroken.prefix_spread]

/-- Before a line at which the word does not stand, the indentation is passed over. -/
theorem scanUntil_indent (nonempty : word ≠ []) {text : List Char}
    (miss : (Pattern.closing word).hits text = false) :
    (Pattern.closing word).scanUntil (indent indentation text) =
      (lead indentation text ++ ((Pattern.closing word).scanUntil (spread indentation text)).1,
        ((Pattern.closing word).scanUntil (spread indentation text)).2) := by
  refine Pattern.scanUntil_eq fun part suffix _ => ?_
  have white : Blank part := fun char member => blank_lead blank text char (suffix.subset member)
  rw [unbroken.hits_append nonempty white, unbroken.hits_spread blank nonempty, miss]

/-- **A search for a word** passes over what it passes over without the indentation. -/
theorem scanUntil_spread (nonempty : word ≠ []) (text : List Char) :
    (Pattern.closing word).scanUntil (spread indentation text) =
      (spread indentation ((Pattern.closing word).scanUntil text).1,
        spread indentation ((Pattern.closing word).scanUntil text).2) := by
  have same := unbroken.hits_spread blank nonempty
  induction text with
  | nil => rfl
  | cons char rest hypothesis =>
    by_cases hit : (Pattern.closing word).hits (char :: rest) = true
    · rw [Pattern.scanUntil_hit hit, Pattern.scanUntil_hit (by rw [same, hit])]
      rfl
    · have miss : (Pattern.closing word).hits (spread indentation (char :: rest)) ≠ true := by
        rwa [same]
      rw [Pattern.scanUntil, if_neg hit]
      by_cases feed : char = '\n'
      · subst feed
        have white : Blank ['\n'] := by decide +kernel
        have behind : (Pattern.closing word).hits rest = false := by
          rw [← unbroken.hits_append nonempty white]
          exact Bool.eq_false_iff.mpr hit
        have first : lead indentation ((Pattern.closing word).scanUntil rest).1 =
            lead indentation rest := by
          cases rest with
          | nil => rfl
          | cons next more =>
            rw [Pattern.scanUntil, if_neg (by rw [behind]; exact Bool.false_ne_true)]
            rfl
        rw [spread_newline] at miss ⊢
        rw [Pattern.scanUntil, if_neg miss, unbroken.scanUntil_indent blank nonempty behind,
          hypothesis, spread_newline, indent, first]
      · rw [spread_cons feed] at miss ⊢
        rw [Pattern.scanUntil, if_neg miss, hypothesis, spread_cons feed]

/-- **What a closing pattern matches** is followed by the same. -/
theorem matchLength?_spread (nonempty : word ≠ []) {text : List Char} {size : Nat}
    (found : (Pattern.closing word).matchLength? text = some size) :
    ∃ wide, (Pattern.closing word).matchLength? (spread indentation text) = some wide ∧
      (spread indentation text).drop wide = spread indentation (text.drop size) := by
  rw [Pattern.matchLength?_closing] at found
  obtain ⟨count, before, rfl⟩ := Option.map_eq_some_iff.mp found
  obtain ⟨gap, rest, rfl, white, rfl⟩ := Pattern.blanksBefore?_spec before
  obtain ⟨wide, all, _, same⟩ := spread_blank blank white (word ++ rest)
  rw [spread_line unbroken.newline_not_mem] at same
  refine ⟨wide.length + word.length, ?_, ?_⟩
  · rw [same, Pattern.matchLength?_closing,
      Pattern.blanksBefore?_ink _ unbroken.inkFirst nonempty all, Option.map_some]
  · rw [same, ← List.append_assoc, ← List.append_assoc, ← List.length_append,
      ← List.length_append, List.drop_left, List.drop_left]

theorem scan_spread (nonempty : word ≠ []) (text : List Char) :
    ((Pattern.closing word).scan (spread indentation text)).2 =
      spread indentation ((Pattern.closing word).scan text).2 := by
  cases found : (Pattern.closing word).matchLength? text with
  | some size =>
    obtain ⟨wide, matched, left⟩ := unbroken.matchLength?_spread blank nonempty found
    rw [Pattern.scan_eq matched, Pattern.scan_eq found, left]
  | none =>
    have miss : (Pattern.closing word).matchLength? (spread indentation text) = none := by
      have missed := unbroken.hits_spread blank nonempty text
      unfold Pattern.hits at missed
      rw [found] at missed
      exact Option.isNone_iff_eq_none.mp (Option.isSome_eq_false_iff.mp missed)
    unfold Pattern.scan
    rw [miss, found, List.splitAt_eq, List.splitAt_eq]
    rfl

end Text.Unbroken

/-! ### Tags -/

open Lexer

variable {indentation : List Char} {delimiters : Delimiters} {offset : Int}

theorem readSigil_spread (text : List Char) :
    readSigil (Text.spread indentation text) =
      ((readSigil text).1, Text.spread indentation (readSigil text).2) := by
  cases text with
  | nil => rfl
  | cons char rest =>
    by_cases member : char ∈ Pattern.sigils
    · have plain : char ≠ '\n' := fun same => by
        subst same
        exact absurd member (by decide)
      rw [Text.spread_cons plain, readSigil_mem member, readSigil_mem member]
    · have none : ∀ {text}, text.head? = some char → readSigil text = (.none, text) :=
        fun first => readSigil_none fun other same => by
          rw [first] at same
          cases same
          exact member
      rw [@none (char :: rest) rfl, none (Text.head?_spread _)]

/-- The words of a text are the same with an indentation in it. -/
theorem Delimiters.ofText?_spread (blank : Text.Blank indentation) (text : String) :
    ofText? (Text.widen indentation text) = ofText? text := by
  have feed : ¬ (!Text.isBlank '\n') = true := by decide +kernel
  have word : ∀ text, firstWord (Text.spread indentation text) = firstWord text := fun text =>
    Text.takeWhile_spread feed text
  have behind : afterFirstWord (Text.spread indentation text.toList) =
      Text.spread indentation (afterFirstWord text.toList) := by
    unfold afterFirstWord
    rw [@Text.dropWhile_spread indentation (fun char => !Text.isBlank char) feed,
      Text.afterBlanks_spread blank]
  unfold ofText? Text.widen
  rw [String.toList_ofList, behind, word, word]

variable (unbroken : delimiters.Unbroken)

include unbroken

/-- **A blank is plain text**, as no tag begins with one. -/
theorem lex_blank {char : Char} (white : Text.isBlank char = true) (rest : List Char) :
    lex delimiters offset (char :: rest) =
      (lex delimiters (offset + 1) rest).prepend [charToken char offset] := by
  have word : Text.Unbroken delimiters.opening.toList := unbroken.opening
  exact lex_char (word.not_prefix_blank delimiters.opening_toList_ne white rest)

variable (blank : Text.Blank indentation)

include blank

/-- **The content of a tag** has the indentation behind its line feeds. -/
theorem readContent_spread (sigil : Option Char) (text : List Char) :
    readContent delimiters sigil (Text.spread indentation text) =
      (Text.spread indentation (readContent delimiters sigil text).1,
        Text.spread indentation (readContent delimiters sigil text).2) := by
  have closing : Text.Unbroken delimiters.closing.toList := unbroken.closing
  have braced : Text.Unbroken ('\x7d' :: delimiters.closing.toList) :=
    List.forall_mem_cons.mpr ⟨by decide +kernel, closing⟩
  have brace : Text.Unbroken ['\x7d'] := List.forall_mem_singleton.mpr (by decide +kernel)
  have equals : Text.Unbroken ['='] := List.forall_mem_singleton.mpr (by decide +kernel)
  have last := closing.scanUntil_spread blank delimiters.closing_toList_ne
  unfold readContent
  split
  · have first := equals.scanUntil_spread blank (List.cons_ne_nil _ _) text
    have sign := equals.scan_spread blank (List.cons_ne_nil _ _)
    unfold Pattern.equalsSign Delimiters.closingPattern
    simp only [first, sign, last]
  · have first := braced.scanUntil_spread blank (List.cons_ne_nil _ _) text
    have sign := brace.scan_spread blank (List.cons_ne_nil _ _)
    unfold Pattern.closingBrace Delimiters.closingPattern Delimiters.closingBracePattern
    simp only [first, sign, last]
  · exact last text

/-- **One tag of an indented text** is of the same sort, with the indentation in its content. -/
theorem readTag?_spread {text rest : List Char} {token : Token}
    (opens : delimiters.opening.toList <+: text)
    (read : readTag? delimiters offset text = some (token, rest)) (place : Int) :
    ∃ kind span stop, token = .ofKind kind span ∧
      readTag? delimiters place (Text.spread indentation text) =
        some (.ofKind kind ⟨Text.widen indentation span.value, place, stop⟩,
          Text.spread indentation rest) := by
  obtain ⟨inside, rfl⟩ := opens
  obtain ⟨sigil, afterSigil, content, gap, sort, found, white, closes, rfl⟩ :=
    readTag?_parts_of read
  have opening : Text.Unbroken delimiters.opening.toList := unbroken.opening
  have closing : Text.Unbroken delimiters.closing.toList := unbroken.closing
  have signed : readSigil (Text.afterBlanks (Text.spread indentation inside)) =
      (sigil, Text.spread indentation afterSigil) := by
    rw [Text.afterBlanks_spread blank, readSigil_spread, sort]
  have contained : readContent delimiters sigil
      (Text.afterBlanks (Text.spread indentation afterSigil)) =
        (Text.spread indentation content,
          Text.spread indentation (gap ++ (delimiters.closing.toList ++ rest))) := by
    rw [Text.afterBlanks_spread blank, readContent_spread unbroken blank, found]
  have matched : delimiters.closingPattern.matchLength? (gap ++ (delimiters.closing.toList ++ rest))
      = some (gap ++ delimiters.closing.toList).length := by
    unfold Delimiters.closingPattern
    rw [Pattern.matchLength?_closing, closes, Option.map_some, List.length_append]
  have behind : (gap ++ (delimiters.closing.toList ++ rest)).drop
      (gap ++ delimiters.closing.toList).length = rest := by
    rw [← List.append_assoc, List.drop_left]
  obtain ⟨wide, further, left⟩ :=
    closing.matchLength?_spread blank delimiters.closing_toList_ne matched
  rw [behind] at left
  obtain ⟨stop, whole⟩ : ∃ stop, readTag? delimiters place
      (Text.spread indentation (delimiters.opening.toList ++ inside)) =
        some (.ofKind (kindOf sigil) ⟨String.ofList (Text.spread indentation content), place, stop⟩,
          Text.spread indentation rest) := by
    rw [Text.spread_line opening.newline_not_mem, readTag?_eq signed contained further, left]
    exact ⟨_, rfl⟩
  refine ⟨_, _, stop, rfl, ?_⟩
  rw [Text.widen, String.toList_ofList]
  exact whole

end Mustache
