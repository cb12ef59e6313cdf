import Mustache.Proofs.DelimiterTags
import Mustache.Proofs.Printing

/-!
**What names two delimiters.**

Delimiters come from a text, which names them by its first two words, or from a list or a tuple of
the two; nothing else names any. They are never empty, so that the patterns that look for them pass
over something wherever they match. A delimiter tag inside a template names its delimiters in the
same way, so at every place of a template delimiters are in force that are not empty.

* `Delimiters.Named`: the values that name two delimiters.
* `ofText?_eq_some_iff`, `read_eq_ok_iff`: they are what is taken for delimiters.
* `Delimiters.Consuming`: delimiters whose patterns match no empty text.
* `inForce_of_lex`: the delimiters in force before a token.
* `read_named`: **the main statement.**
-/

namespace Mustache

open Lexer

namespace Delimiters

/-- **The values that name two delimiters**: a text that starts with the two as words, with blanks
between them and a blank or nothing behind them; and a list or a tuple of the two. -/
inductive Named (delimiters : Delimiters) : Value → Prop
  | words {text : String} (between : Blanks) (further : List Char) :
      delimiters.Unbroken → between.val ≠ [] →
      (∀ char ∈ further.head?, Text.isBlank char = true) →
      text.toList = delimiters.opening.toList ++
        (between.val ++ (delimiters.closing.toList ++ further)) →
      Named delimiters (.text text)
  | list : Named delimiters (.list [.text delimiters.opening, .text delimiters.closing])
  | tuple : Named delimiters (.tuple [.text delimiters.opening, .text delimiters.closing])

/-- **Delimiters whose patterns match no empty text.** -/
structure Consuming (delimiters : Delimiters) : Prop where
  opening : ∀ text size, delimiters.openingPattern.matchLength? text = some size → 0 < size
  closing : ∀ text size, delimiters.closingPattern.matchLength? text = some size → 0 < size
  closingBrace : ∀ text size,
    delimiters.closingBracePattern.matchLength? text = some size → 0 < size

variable {delimiters : Delimiters}

/-! ### Taking a value for delimiters -/

theorem ofPair?_eq_some_iff {opening closing : String} :
    ofPair? opening closing = some delimiters ↔
      opening = delimiters.opening ∧ closing = delimiters.closing := by
  unfold ofPair?
  constructor
  · intro found
    split at found
    · cases found
      exact ⟨rfl, rfl⟩
    · cases found
  · rintro ⟨rfl, rfl⟩
    exact dif_pos ⟨delimiters.opening_ne, delimiters.closing_ne⟩

/-- **A text is taken for the delimiters that it names.** -/
theorem ofText?_eq_some_iff {text : String} :
    ofText? text = some delimiters ↔ delimiters.Named (.text text) := by
  constructor
  · intro named
    obtain ⟨between, further, some, apart, words⟩ := ofText?_words named
    exact .words between further (unbroken_of_ofText? named) some apart words
  · intro named
    cases named with
    | words between further unbroken some apart words =>
      rw [← String.ofList_toList (s := text), words]
      exact ofText?_of_words unbroken.opening unbroken.closing between.property some apart

/-- **A value is taken for the delimiters that it names.** -/
theorem ofValue?_eq_some_iff {value : Value} :
    ofValue? value = some delimiters ↔ delimiters.Named value := by
  constructor
  · intro found
    unfold ofValue? at found
    split at found
    · exact ofText?_eq_some_iff.mp found
    · obtain ⟨rfl, rfl⟩ := ofPair?_eq_some_iff.mp found
      exact .list
    · obtain ⟨rfl, rfl⟩ := ofPair?_eq_some_iff.mp found
      exact .tuple
    · cases found
  · intro named
    cases named with
    | words between further unbroken some apart words =>
      exact ofText?_eq_some_iff.mpr (.words between further unbroken some apart words)
    | list => exact ofPair?_eq_some_iff.mpr ⟨rfl, rfl⟩
    | tuple => exact ofPair?_eq_some_iff.mpr ⟨rfl, rfl⟩

section Read

variable {tags : Value} {template : Option String} {position : Int}

theorem read_eq_ok_iff : read tags template position = .ok delimiters ↔ delimiters.Named tags := by
  rw [← ofValue?_eq_some_iff]
  unfold read
  cases ofValue? tags with
  | some found => simp
  | none => simp

/-- A value that names no delimiters is refused, and shown. -/
theorem read_unnamed (unnamed : ∀ delimiters : Delimiters, ¬ delimiters.Named tags) :
    read tags template position =
      .error (.locate (.invalidTags tags.shown) position template) := by
  unfold read
  cases found : ofValue? tags with
  | some delimiters => exact absurd (ofValue?_eq_some_iff.mp found) (unnamed delimiters)
  | none => rfl

end Read

/-! ### Texts that name none -/

theorem not_named_of_blank {char : Char} (blank : Text.isBlank char = true) (rest : List Char) :
    ¬ delimiters.Named (.text (String.ofList (char :: rest))) := by
  intro named
  cases named with
  | words between further unbroken some apart words =>
    obtain ⟨first, more, opening⟩ := List.exists_cons_of_ne_nil delimiters.opening_toList_ne
    have black := unbroken.opening first (by rw [opening]; exact List.mem_cons_self)
    rw [String.toList_ofList, opening] at words
    rw [← (List.cons.inj words).1, blank] at black
    cases black

/-- A word with nothing but blanks behind it names no delimiters. -/
theorem not_named_of_word {word : List Char} (black : ∀ char ∈ word, Text.isBlank char = false)
    (blanks : Blanks) : ¬ delimiters.Named (.text (String.ofList (word ++ blanks.val))) := by
  intro named
  have found := ofText?_eq_some_iff.mpr named
  have ends : ∀ char ∈ blanks.val.head?, Text.isBlank char = true := fun char member =>
    blanks.property char (List.mem_of_mem_head? member)
  have nothing : Text.afterBlanks blanks.val = [] := by
    rw [← List.append_nil blanks.val, Text.afterBlanks_append blanks.property]
    rfl
  unfold ofText? at found
  rw [String.toList_ofList, afterFirstWord_eq black ends, nothing] at found
  exact delimiters.closing_ne (ofPair?_eq_some_iff.mp found).2.symm

/-! ### Patterns -/

/-- **No delimiters are found in nothing.** -/
theorem consuming (delimiters : Delimiters) : delimiters.Consuming where
  opening text size found := by
    have long := Pattern.length_le_opening found
    have some := List.length_pos_iff.mpr delimiters.opening_toList_ne
    omega
  closing text size found := by
    have long := Pattern.length_le_closing found
    have some := List.length_pos_iff.mpr delimiters.closing_toList_ne
    omega
  closingBrace text size found := by
    have long := Pattern.length_le_closing found
    rw [List.length_cons] at long
    omega

/-- A pair as a value names the pair. -/
theorem named_toValue (delimiters : Delimiters) : delimiters.Named delimiters.toValue := .tuple

/-! ### The delimiters of a template -/

/-- After a token the delimiters are the same, or the token is a delimiter tag that names them. -/
theorem named_of_delimitersAfter? {next : Delimiters} {token : Token}
    (change : delimitersAfter? delimiters token = some next) :
    next = delimiters ∨ ∃ span, token = .delimiters span ∧ next.Named (.text span.value) := by
  cases token with
  | delimiters span => exact .inr ⟨span, rfl, ofText?_eq_some_iff.mp change⟩
  | _ =>
    cases change
    exact .inl rfl

/-- **The delimiters in force at a place of a template**, before a token or at its end, are those of
the template, or are named by a delimiter tag before that place. -/
theorem inForce_of_lex {offset : Int} {text : List Char} {before after : List Token}
    (split : (lex delimiters offset text).tokens = before ++ after)
    (goes : after = [] → (lex delimiters offset text).fault = none) :
    ∃ inForce, delimiters.after? before = some inForce ∧
      (inForce = delimiters ∨
        ∃ span, Token.delimiters span ∈ before ∧ inForce.Named (.text span.value)) := by
  have start : ∀ delimiters : Delimiters, ∃ inForce, delimiters.after? [] = some inForce ∧
      (inForce = delimiters ∨
        ∃ span, Token.delimiters span ∈ [] ∧ inForce.Named (.text span.value)) :=
    fun delimiters => ⟨delimiters, rfl, .inl rfl⟩
  induction delimiters, offset, text using lex_induction generalizing before with
  | nil delimiters offset =>
    rw [lex_nil] at split
    rw [(List.append_eq_nil_iff.mp split.symm).1]
    exact start delimiters
  | char delimiters offset char rest plain hypothesis =>
    rw [lex_char plain] at split goes
    cases before with
    | nil => exact start delimiters
    | cons first before =>
      obtain ⟨rfl, behind⟩ := List.cons.inj split
      obtain ⟨inForce, force, origin⟩ := hypothesis behind goes
      exact ⟨inForce, force, origin.imp_right fun ⟨span, member, named⟩ =>
        ⟨span, List.mem_cons_of_mem _ member, named⟩⟩
  | tag delimiters offset text token rest next opens read change hypothesis =>
    rw [lex_tag opens read change] at split goes
    cases before with
    | nil => exact start delimiters
    | cons first before =>
      obtain ⟨rfl, behind⟩ := List.cons.inj split
      obtain ⟨inForce, force, origin⟩ := hypothesis behind goes
      refine ⟨inForce, ?_, ?_⟩
      · unfold Delimiters.after? at force ⊢
        rw [List.foldlM_cons, change]
        exact force
      · rcases origin with rfl | ⟨span, member, named⟩
        · exact (named_of_delimitersAfter? change).imp_right fun ⟨span, same, named⟩ =>
            ⟨span, by rw [same]; exact List.mem_cons_self, named⟩
        · exact .inr ⟨span, List.mem_cons_of_mem _ member, named⟩
  | unclosed delimiters offset text opens read =>
    rw [lex_unclosed opens read] at split
    rw [(List.append_eq_nil_iff.mp split.symm).1]
    exact start delimiters
  | invalid delimiters offset text token rest opens read change =>
    rw [lex_invalid opens read change] at split goes
    cases before with
    | nil => exact start delimiters
    | cons first before =>
      -- the tag that names no delimiters comes last, and lexing ends there
      obtain ⟨_, behind⟩ := List.cons.inj split
      cases goes (List.append_eq_nil_iff.mp behind.symm).2

/-- **What is taken for delimiters is what names them.** A value that names none is refused, and
shown; so is a text that starts with a blank, or that holds one word and blanks behind it. The
delimiters that are read are not empty and their patterns match no empty text; read again, they are
the same. At every place that is reached in a template, before a token or at the end, such
delimiters are in force: those that the template was given, or those that a delimiter tag before
names. -/
theorem read_named :
    (∀ tags template position delimiters,
      read tags template position = .ok delimiters ↔ delimiters.Named tags) ∧
    (∀ tags template position, (∀ delimiters : Delimiters, ¬ delimiters.Named tags) →
      read tags template position =
        .error (.locate (.invalidTags tags.shown) position template)) ∧
    (∀ char rest (delimiters : Delimiters), Text.isBlank char = true →
      ¬ delimiters.Named (.text (String.ofList (char :: rest)))) ∧
    (∀ word (blanks : Blanks) (delimiters : Delimiters),
      (∀ char ∈ word, Text.isBlank char = false) →
      ¬ delimiters.Named (.text (String.ofList (word ++ blanks.val)))) ∧
    (∀ tags template position delimiters, read tags template position = .ok delimiters →
      delimiters.opening ≠ "" ∧ delimiters.closing ≠ "" ∧ delimiters.Consuming ∧
        ∀ template position, read delimiters.toValue template position = .ok delimiters) ∧
    ∀ (delimiters : Delimiters) (template : String) (before after : List Token),
      (lex delimiters 0 template.toList).tokens = before ++ after →
      (after = [] → (lex delimiters 0 template.toList).fault = none) →
      ∃ inForce, delimiters.after? before = some inForce ∧ inForce.opening ≠ "" ∧
        inForce.closing ≠ "" ∧ inForce.Consuming ∧
        (inForce = delimiters ∨
          ∃ span, Token.delimiters span ∈ before ∧ inForce.Named (.text span.value)) := by
  refine ⟨fun _ _ _ _ => read_eq_ok_iff, fun _ _ _ => read_unnamed,
    fun _ rest _ blank => not_named_of_blank blank rest,
    fun _ blanks _ black => not_named_of_word black blanks, ?_, ?_⟩
  · intro _ _ _ delimiters _
    exact ⟨delimiters.opening_ne, delimiters.closing_ne, delimiters.consuming, fun _ _ =>
      read_eq_ok_iff.mpr delimiters.named_toValue⟩
  · intro delimiters template before after split goes
    obtain ⟨inForce, force, origin⟩ := inForce_of_lex split goes
    exact ⟨inForce, force, inForce.opening_ne, inForce.closing_ne, inForce.consuming, origin⟩

/-- A delimiter tag with a third word, and a character behind it. -/
def changedTemplate : String := "\x7b\x7b=<% %> x=\x7d\x7da"

theorem read_named_words :
    (Delimiters.standard.Named (.text "\x7b\x7b \x7d\x7d x") ∧
      read Delimiters.standard.toValue none 7 = .ok .standard) ∧
    (Text.isBlank ' ' = true ∧ read (.text " <% %>") none 0 =
      .error (.locate (.invalidTags "' <% %>'") 0 none)) ∧
    ((∀ char ∈ ['<', '%'], Text.isBlank char = false) ∧ read (.text "<% ") none 0 =
      .error (.locate (.invalidTags "'<% '") 0 none)) ∧
    ((lex .standard 0 changedTemplate.toList).tokens.drop 1 ≠ [] ∧
      ∃ inForce, Delimiters.standard.after?
          ((lex .standard 0 changedTemplate.toList).tokens.take 1) = some inForce ∧
        inForce.Consuming ∧ inForce.opening = "<%") := by
  obtain ⟨taken, refused, blankFirst, oneWord, sound, inside⟩ := read_named
  have named : ofText? "\x7b\x7b \x7d\x7d x" = some .standard := by decide +kernel
  have read : read (.text "\x7b\x7b \x7d\x7d x") none 0 = .ok .standard :=
    read_eq_ok_iff.mpr (ofText?_eq_some_iff.mp named)
  have blank : Text.isBlank ' ' = true := by decide +kernel
  have black : ∀ char ∈ ['<', '%'], Text.isBlank char = false :=
    List.forall_mem_cons.mpr ⟨by decide +kernel, List.forall_mem_singleton.mpr (by decide +kernel)⟩
  have more : (lex .standard 0 changedTemplate.toList).tokens.drop 1 ≠ [] := by
    have shown : ((lex .standard 0 changedTemplate.toList).tokens.drop 1).isEmpty = false := by
      decide +kernel
    exact List.isEmpty_eq_false_iff.mp shown
  have opening : (Delimiters.standard.after?
      ((lex .standard 0 changedTemplate.toList).tokens.take 1)).map opening = some "<%" := by
    decide +kernel
  obtain ⟨inForce, force, _, _, consuming, _⟩ := inside .standard changedTemplate _ _
    (List.take_append_drop 1 _).symm fun empty => absurd empty more
  rw [force] at opening
  exact ⟨⟨(taken _ _ _ _).mp read, (sound _ _ _ _ read).2.2.2 none 7⟩,
    ⟨blank, refused _ none 0 fun delimiters => blankFirst ' ' _ delimiters blank⟩,
    ⟨black, refused _ none 0 fun delimiters =>
      oneWord ['<', '%'] ⟨[' '], Text.blank_space⟩ delimiters black⟩,
    more, inForce, force, consuming, Option.some.inj opening⟩

end Delimiters

end Mustache
