import Mustache.Proofs.Locality

/-!
**What a delimiter tag holds.**

A delimiter tag is an equals sign, two words, and a second equals sign. Of its content up to the
second equals sign the first two words are taken as delimiters, and whatever words come behind them
are dropped. The closing delimiter is then looked for behind the second equals sign.

* `Delimiters.Nameable`: the delimiters that such a tag can name.
* `DelimiterTag`: the text of a tag that names two delimiters.
* `delimiterTag_of_readTag?`: **what is read as a delimiter tag** is such a text.
* `tokenize_delimiterTag`: **the main statement**, on the delimiter tags of a template.
* `not_tokenize_delimiterTag_words`: further words are not refused.
-/

namespace Mustache

open Lexer

/-- Delimiters that a delimiter tag can name: words without an equals sign. -/
structure Delimiters.Nameable (delimiters : Delimiters) : Prop extends delimiters.Unbroken where
  opening_free : '=' ∉ delimiters.opening.toList
  closing_free : '=' ∉ delimiters.closing.toList

/-- Further words behind two others: nothing, or a blank and more, without an equals sign. -/
structure FurtherWords (further : List Char) : Prop where
  apart : ∀ char ∈ further.head?, Text.isBlank char = true
  free : '=' ∉ further

/-- **The text of a delimiter tag** that names the next delimiters, with further words behind them
and a tail behind the second equals sign. -/
inductive DelimiterTag (delimiters next : Delimiters) (further tail : List Char) :
    List Char → Prop
  | named (gaps : Gaps) (between : Blanks) : between.val ≠ [] →
      DelimiterTag delimiters next further tail
        (delimiters.opening.toList ++ (gaps.beforeSigil.val ++ ('=' :: (gaps.afterSigil.val ++
          (next.opening.toList ++ (between.val ++ (next.closing.toList ++ (further ++
            (gaps.afterContent.val ++ ('=' :: (tail ++ delimiters.closing.toList)))))))))))

variable {delimiters next : Delimiters} {offset : Int}

/-! ### Two words -/

namespace Delimiters

/-- A first word ends with the text, or at a blank. -/
theorem firstWord_append (text : List Char) :
    ∃ rest, text = firstWord text ++ rest ∧ (∀ char ∈ rest.head?, Text.isBlank char = true) ∧
      afterFirstWord text = Text.afterBlanks rest := by
  refine ⟨_, List.takeWhile_append_dropWhile.symm, fun char member => ?_, rfl⟩
  have stops := List.head?_dropWhile_not (fun char => !Text.isBlank char) text
  rw [Option.mem_def.mp member] at stops
  simpa using stops

/-- **The delimiters that a text names** are its first two words, with blanks between them. -/
theorem ofText?_words {text : String} (named : ofText? text = some next) :
    ∃ (between : Blanks) (further : List Char), between.val ≠ [] ∧
      (∀ char ∈ further.head?, Text.isBlank char = true) ∧
      text.toList = next.opening.toList ++ (between.val ++ (next.closing.toList ++ further)) := by
  unfold ofText? ofPair? at named
  split at named
  · rename_i nonempty
    cases named
    obtain ⟨rest, whole, ends, behind⟩ := firstWord_append text.toList
    obtain ⟨further, second, apart, _⟩ := firstWord_append (afterFirstWord text.toList)
    refine ⟨⟨Text.blankRun rest, Text.blank_blankRun rest⟩, further, ?_, apart, ?_⟩
    · -- without blanks the text would end behind the first word, and there would be no second one
      intro none
      refine nonempty.2 ?_
      rw [behind]
      cases rest with
      | nil => rfl
      | cons char rest =>
        have starts := List.takeWhile_cons_of_pos (l := rest) (ends char rfl)
        cases starts.symm.trans none
    · rw [String.toList_ofList, String.toList_ofList, ← second, behind,
        Text.blankRun_append_afterBlanks]
      exact whole
  · cases named

end Delimiters

/-! ### One tag -/

theorem kindOf_eq_delimiters {sigil : Option Char} (same : kindOf sigil = .delimiters) :
    sigil = some '=' := by
  unfold kindOf at same
  split at same
  all_goals first
    | rfl
    | cases same

/-- What an equals sign is absent from does not contain it. -/
theorem not_mem_of_absent {run following : List Char} (absent : Text.Absent ['='] run following) :
    '=' ∉ run := by
  intro member
  obtain ⟨before, after, rfl⟩ := List.append_of_mem member
  exact absent ('=' :: after) (List.suffix_append _ _) (List.cons_ne_nil _ _) ⟨after ++ following, rfl⟩

/-- **What is read as a delimiter tag** is the text of one that names the next delimiters. -/
theorem delimiterTag_of_readTag? {text rest : List Char} {span : Span}
    (opens : delimiters.opening.toList <+: text)
    (read : readTag? delimiters offset text = some (.delimiters span, rest))
    (change : Delimiters.ofText? span.value = some next) :
    ∃ source further tail, text = source ++ rest ∧ next.Nameable ∧ FurtherWords further ∧
      DelimiterTag delimiters next further tail source := by
  obtain ⟨inside, rfl⟩ := opens
  obtain ⟨sigil, afterSigil, content, gap, sort, found, _, _, token⟩ := readTag?_parts_of read
  have kind := congrArg Token.kind token
  rw [kind_ofKind] at kind
  obtain rfl := kindOf_eq_delimiters kind.symm
  have value : span.value = String.ofList content := by
    have spans := congrArg Token.span token
    rw [span_ofKind] at spans
    exact congrArg Span.value spans
  have mark : Text.afterBlanks inside = '=' :: afterSigil := by
    rcases readSigil_spec (Text.afterBlanks inside) with ⟨char, more, same, _, signed⟩ | plain
    · obtain ⟨same', rfl⟩ := Prod.mk.inj (sort.symm.trans signed)
      cases same'
      exact same
    · cases (Prod.mk.inj (sort.symm.trans plain)).1
  -- the content ends at the second equals sign, so that there is none in it
  have ne : (Pattern.equalsSign.scanUntil (Text.afterBlanks afterSigil)).2 ≠ [] := by
    intro empty
    have left := congrArg Prod.snd found
    simp [readContent, empty, Pattern.scan, Pattern.scanUntil, delimiters.closing_toList_ne] at left
  obtain ⟨other, before, following, whole, search, _, _, white, absent⟩ :=
    content_spec ne (Text.inkFirst_afterBlanks afterSigil)
  rw [List.singleton_append] at whole search
  obtain ⟨rfl, left⟩ := Prod.mk.inj ((readContent_change search white).symm.trans found)
  have free := not_mem_of_absent absent
  have behind := Pattern.scanUntil_append delimiters.closingPattern following
  rw [left] at behind
  rw [value] at change
  obtain ⟨between, further, some, apart, words⟩ := Delimiters.ofText?_words change
  rw [String.toList_ofList] at words
  rw [words] at free whole
  have unbroken := Delimiters.unbroken_of_ofText? change
  simp only [List.mem_append, not_or] at free
  refine ⟨_, further, (delimiters.closingPattern.scanUntil following).1 ++ gap, ?_,
    ⟨unbroken, free.1, free.2.2.1⟩, ⟨apart, free.2.2.2⟩,
    .named ⟨⟨Text.blankRun inside, Text.blank_blankRun inside⟩,
      ⟨Text.blankRun afterSigil, Text.blank_blankRun afterSigil⟩, ⟨before, white⟩⟩ between some⟩
  conv_lhs => rw [← Text.blankRun_append_afterBlanks inside, mark,
    ← Text.blankRun_append_afterBlanks afterSigil, whole, ← behind]
  simp only [List.append_assoc, List.cons_append]

/-! ### The tags of a template -/

/-- The first token, if it is a tag, is what is read as one. -/
theorem readTag?_of_lex {text : List Char} {token : Token} {after : List Token}
    {last : Delimiters} (lexed : lex delimiters offset text = ⟨token :: after, none, last⟩)
    (tag : token.isText = false) :
    delimiters.opening.toList <+: text ∧ ∃ rest next,
      readTag? delimiters offset text = some (token, rest) ∧
        delimitersAfter? delimiters token = some next := by
  have same := congrArg Lexed.tokens lexed
  have sound := congrArg Lexed.fault lexed
  clear lexed
  induction delimiters, offset, text using lex_induction with
  | nil delimiters offset =>
    rw [lex_nil] at same
    cases same
  | char delimiters offset char rest plain _ =>
    rw [lex_char plain] at same
    obtain ⟨rfl, _⟩ := List.cons.inj same
    cases tag
  | tag delimiters offset text own rest next opens read change _ =>
    rw [lex_tag opens read change] at same
    obtain ⟨rfl, _⟩ := List.cons.inj same
    exact ⟨opens, rest, next, read, change⟩
  | unclosed delimiters offset text opens read =>
    rw [lex_unclosed opens read] at sound
    cases sound
  | invalid delimiters offset text own rest opens read change =>
    rw [lex_invalid opens read change] at sound
    cases sound

theorem after?_concat {inForce : Delimiters} {before : List Token}
    (force : delimiters.after? before = some inForce) (token : Token) :
    delimiters.after? (before ++ [token]) = delimitersAfter? inForce token := by
  unfold Delimiters.after? at force ⊢
  rw [List.foldlM_append, force]
  show (delimitersAfter? inForce token).bind some = _
  cases delimitersAfter? inForce token <;> rfl

/-- **A delimiter tag names the delimiters that are in force behind it.** The characters it covers
are an equals sign, two words without an equals sign, any further words without one, a second equals
sign, and what comes before the closing delimiter; the two words are the delimiters from there
on. -/
theorem tokenize_delimiterTag {template : String} {tokens before after : List Token} {span : Span}
    (read : tokenize delimiters template = .ok tokens)
    (place : tokens = before ++ .delimiters span :: after) :
    ∃ inForce next further tail, delimiters.after? before = some inForce ∧
      delimiters.after? (before ++ [.delimiters span]) = some next ∧ next.Nameable ∧
      FurtherWords further ∧ DelimiterTag inForce next further tail (span.slice template.toList) := by
  obtain ⟨sound, _, same⟩ := tokenize_eq_ok_iff.mp read
  rw [same] at place
  obtain ⟨ahead, behind, whole, rfl, here⟩ := Token.annotate_eq_append place
  cases behind with
  | nil => cases here
  | cons token behind =>
    obtain ⟨standing, _⟩ := List.cons.inj here
    cases token with
    | delimiters own =>
      cases standing
      obtain ⟨passed, rest, inForce, cut, force, _, lexed⟩ := lex_split sound whole
      obtain ⟨opens, left, next, read, change⟩ := readTag?_of_lex lexed rfl
      obtain ⟨source, rfl, start, stop, _⟩ := tagText_of_readTag? opens read
      obtain ⟨named, further, tail, same, nameable, words, tag⟩ :=
        delimiterTag_of_readTag? opens read change
      obtain rfl := List.append_cancel_right same
      have slice : span.slice template.toList = source := by
        rw [cut]
        refine Span.slice_append ?_ ?_
        · exact start.trans (Int.zero_add _)
        · exact stop.trans (congrArg (· + (source.length : Int)) (Int.zero_add _))
      refine ⟨inForce, next, further, tail, ?_, ?_, nameable, words, ?_⟩
      · rw [Token.after?_annotate]
        exact force
      · rw [after?_concat ((Token.after?_annotate _ _ _).trans force)]
        exact change
      · rw [slice]
        exact tag
    | _ => cases standing

/-- A delimiter tag with a third word. -/
def wordsTemplate : String := "\x7b\x7b=<% %> x=\x7d\x7d"

theorem tokenize_words :
    tokenize .standard wordsTemplate = .ok [.delimiters ⟨"<% %> x", 0, 13⟩] := by
  have parts : (tokenize .standard wordsTemplate).toOption.map
      (List.map fun token => (token.kind, token.span)) =
        some [(.delimiters, ⟨"<% %> x", 0, 13⟩)] := by
    decide +kernel
  obtain ⟨tokens, read, same⟩ := exists_ok_of_toOption_map parts
  obtain ⟨token, rest, rfl, own, none⟩ := List.map_eq_cons_iff.mp same
  rw [read, List.map_eq_nil_iff.mp none]
  cases token with
  | delimiters span =>
    cases own
    rfl
  | interpolation escaped _ => cases escaped <;> cases own
  | block inverted _ _ _ => cases inverted <;> cases own
  | _ => cases own

theorem tokenize_delimiterTag_words :
    ∃ inForce next further tail, tokenize .standard wordsTemplate =
        .ok ([] ++ .delimiters ⟨"<% %> x", 0, 13⟩ :: []) ∧
      Delimiters.standard.after? [] = some inForce ∧
      Delimiters.standard.after? ([] ++ [.delimiters ⟨"<% %> x", 0, 13⟩]) = some next ∧
      next.Nameable ∧ FurtherWords further ∧
      DelimiterTag inForce next further tail
        ((⟨"<% %> x", 0, 13⟩ : Span).slice wordsTemplate.toList) := by
  have place : [Token.delimiters ⟨"<% %> x", 0, 13⟩] =
      [] ++ .delimiters ⟨"<% %> x", 0, 13⟩ :: [] := rfl
  obtain ⟨inForce, next, further, tail, tag⟩ := tokenize_delimiterTag tokenize_words place
  exact ⟨inForce, next, further, tail, tokenize_words, tag⟩

/-! ### Further words -/

/-- A character of a word without an equals sign. -/
def isNamed (char : Char) : Bool := !Text.isBlank char && char != '='

/-- What stands in a delimiter tag behind two words and the blanks after them. -/
def behindWords (delimiters : Delimiters) (source : List Char) : List Char :=
  let content :=
    Text.afterBlanks ((Text.afterBlanks (source.drop delimiters.opening.toList.length)).drop 1)
  Text.afterBlanks ((Text.afterBlanks (content.dropWhile isNamed)).dropWhile isNamed)

theorem dropWhile_named {word rest : List Char}
    (black : ∀ char ∈ word, Text.isBlank char = false) (free : '=' ∉ word)
    (ends : ∀ char ∈ rest.head?, isNamed char = false) :
    (word ++ rest).dropWhile isNamed = rest := by
  rw [List.dropWhile_append_of_pos]
  · cases rest with
    | nil => rfl
    | cons char rest =>
      rw [List.dropWhile_cons_of_neg]
      rw [ends char rfl]
      exact Bool.false_ne_true
  · intro char member
    rw [isNamed, black char member, Bool.not_false, Bool.true_and, bne_iff_ne]
    exact fun same => free (same ▸ member)

theorem head_blanks {blanks : Blanks} (rest : List Char)
    (ends : ∀ char ∈ rest.head?, isNamed char = false) :
    ∀ char ∈ (blanks.val ++ rest).head?, isNamed char = false := by
  intro char member
  obtain ⟨blanks, white⟩ := blanks
  cases blanks with
  | nil => exact ends char member
  | cons first blanks =>
    cases member
    rw [isNamed, white char List.mem_cons_self]
    rfl

/-- Without further words the second equals sign comes next. -/
theorem DelimiterTag.behindWords_eq {tail source : List Char} (nameable : next.Nameable)
    (tag : DelimiterTag delimiters next [] tail source) :
    behindWords delimiters source = '=' :: (tail ++ delimiters.closing.toList) := by
  cases tag with
  | named gaps between some =>
    have equals : Text.isBlank '=' = false := by decide +kernel
    have closes : ∀ char ∈ (gaps.afterContent.val ++
        ('=' :: (tail ++ delimiters.closing.toList))).head?, isNamed char = false := by
      refine head_blanks _ fun char member => ?_
      cases member
      rw [isNamed, equals]
      rfl
    have opening : Text.InkFirst next.opening.toList := fun char member =>
      nameable.opening char (List.mem_of_mem_head? member)
    have apart : ∀ char ∈ (between.val ++ (next.closing.toList ++ (gaps.afterContent.val ++
        ('=' :: (tail ++ delimiters.closing.toList))))).head?, isNamed char = false := by
      obtain ⟨between, white⟩ := between
      obtain ⟨first, rest, rfl⟩ := List.exists_cons_of_ne_nil some
      intro char member
      cases member
      rw [isNamed, white first List.mem_cons_self]
      rfl
    unfold behindWords
    simp only [List.drop_left, List.nil_append]
    rw [Text.afterBlanks_append_ink gaps.beforeSigil.property (Text.inkFirst_cons equals _),
      List.drop_one, List.tail_cons,
      Text.afterBlanks_append_ink gaps.afterSigil.property
        (opening.append_of_ne next.opening_toList_ne _),
      dropWhile_named nameable.opening nameable.opening_free apart,
      Text.afterBlanks_append_ink between.property
        (nameable.toUnbroken.inkFirst_closing.append_of_ne next.closing_toList_ne _),
      dropWhile_named nameable.closing nameable.closing_free closes,
      Text.afterBlanks_append_ink gaps.afterContent.property (Text.inkFirst_cons equals _)]

/-- **It does not hold that further words are refused**: with a third word, a delimiter tag is read
all the same. -/
theorem not_tokenize_delimiterTag_words :
    ¬ ∀ (delimiters : Delimiters) (template : String) (tokens before after : List Token)
      (span : Span), tokenize delimiters template = .ok tokens →
        tokens = before ++ .delimiters span :: after →
        ∃ inForce next tail, delimiters.after? before = some inForce ∧ next.Nameable ∧
          Text.Blank tail ∧ DelimiterTag inForce next [] tail (span.slice template.toList) := by
  intro always
  obtain ⟨inForce, next, tail, force, nameable, _, tag⟩ :=
    always .standard wordsTemplate _ [] [] _ tokenize_words rfl
  cases force
  have behind := tag.behindWords_eq nameable
  have third : behindWords .standard
      ((⟨"<% %> x", 0, 13⟩ : Span).slice wordsTemplate.toList) = ['x', '=', '\x7d', '\x7d'] := by
    decide +kernel
  cases third.symm.trans behind

end Mustache
