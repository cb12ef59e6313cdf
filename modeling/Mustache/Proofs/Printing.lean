import Mathlib.Data.List.Basic
import Mustache.Proofs.Reading
import Mustache.Proofs.TagText

/-!
**Lexing undoes printing.**

A template is printed from a list of items: runs of plain text, and tags with any blanks between
their parts. Delimiter tags change the delimiters that the items after them are printed with. If
each part can be told from what is printed after it, then lexing the printed template gives back
exactly the items.

* `Item`: the items; `Item.print`, `Item.printAll`: their templates.
* `Item.tokens`, `Item.tokensOf`: their tokens, with the offsets at which they are printed.
* `Item.Legible`, `Item.LegibleAll`: nothing that is printed can be taken for something else.
* `tokenize_printAll`: **the main statement.**
-/

namespace Mustache

open Lexer

/-- A text without blanks and without equals signs. -/
def Text.Plain (text : List Char) : Prop := ∀ char ∈ text, isBlank char = false ∧ char ≠ '='

instance (text : List Char) : Decidable (Text.Plain text) :=
  List.decidableBAll (fun char => Text.isBlank char = false ∧ char ≠ '=') text

/-- The content of a delimiter tag: two delimiters without blanks and without equals signs, and the
blanks between them. -/
structure DelimiterPair where
  delimiters : Delimiters
  between : Blanks
  between_ne : between.val ≠ []
  opening_plain : Text.Plain delimiters.opening.toList
  closing_plain : Text.Plain delimiters.closing.toList

/-- The text of a pair of delimiters. -/
def DelimiterPair.text (pair : DelimiterPair) : List Char :=
  pair.delimiters.opening.toList ++ (pair.between.val ++ pair.delimiters.closing.toList)

/-- A piece of a template. -/
inductive Item where
  /-- A run of plain text. -/
  | text (run : List Char)
  /-- A tag with a sigil or none. -/
  | tag (sort : TagSort) (gaps : Gaps) (content : List Char)
  /-- A variable in one more pair of braces, which is not escaped. -/
  | braced (gaps : Gaps) (content : List Char)
  /-- A delimiter tag; the last blanks stand behind its second equals sign. -/
  | change (gaps : Gaps) (pair : DelimiterPair) (last : Blanks)

namespace Item

/-- What stands between the delimiters of a tag. -/
def inside : Item → List Char
  | text _ => []
  | tag sort gaps content =>
    gaps.beforeSigil.val ++ (sort.sigil.toList ++ (gaps.afterSigil.val ++
      (content ++ gaps.afterContent.val)))
  | braced gaps content =>
    gaps.beforeSigil.val ++ ('\x7b' :: (gaps.afterSigil.val ++
      (content ++ (gaps.afterContent.val ++ ['\x7d']))))
  | change gaps pair last =>
    gaps.beforeSigil.val ++ ('=' :: (gaps.afterSigil.val ++
      (pair.text ++ (gaps.afterContent.val ++ ('=' :: last.val)))))

/-- **The template of an item.** -/
def print (delimiters : Delimiters) : Item → List Char
  | text run => run
  | item => delimiters.opening.toList ++ (item.inside ++ delimiters.closing.toList)

/-- The delimiters in force after an item. -/
def next (delimiters : Delimiters) : Item → Delimiters
  | change _ pair _ => pair.delimiters
  | _ => delimiters

/-- **The template of some items**, each printed with the delimiters in force. -/
def printAll (delimiters : Delimiters) : List Item → List Char
  | [] => []
  | item :: rest => item.print delimiters ++ printAll (item.next delimiters) rest

/-- The sort of the token of a tag. -/
def kind : Item → Token.Kind
  | text _ => .text
  | tag sort _ _ => sort.kind
  | braced _ _ => .unescaped
  | change _ _ _ => .delimiters

/-- The content of an item. -/
def content : Item → List Char
  | text run => run
  | tag _ _ content => content
  | braced _ content => content
  | change _ pair _ => pair.text

/-- **The tokens of an item** that is printed at an offset: one for each character of a run of plain
text, and one for a tag. -/
def tokens (delimiters : Delimiters) (offset : Int) : Item → List Token
  | text run => run.mapIdx fun index char => charToken char (offset + index)
  | item =>
    let stop := offset + (item.print delimiters).length
    [.ofKind item.kind ⟨String.ofList item.content, offset, stop⟩]

/-- **The tokens of some items** that are printed from an offset on. -/
def tokensOf (delimiters : Delimiters) (offset : Int) : List Item → List Token
  | [] => []
  | item :: rest =>
    item.tokens delimiters offset ++
      tokensOf (item.next delimiters) (offset + (item.print delimiters).length) rest

/-- **An item that can be told from what is printed after it**: no opening delimiter begins within a
plain text, nothing that closes a tag begins within its content, which neither starts nor ends with
a blank, and what follows the opening delimiter of a variable is no sigil. -/
def Legible (delimiters : Delimiters) (following : List Char) : Item → Prop
  | text run => Text.Absent delimiters.opening.toList run following
  | tag sort gaps content =>
    Text.InkFirst content ∧ Text.InkLast content ∧
      Text.Absent delimiters.closing.toList content
        (gaps.afterContent.val ++ delimiters.closing.toList) ∧
      (sort = .name → Unsigned (content ++ delimiters.closing.toList))
  | braced gaps content =>
    Text.InkFirst content ∧ Text.InkLast content ∧
      Text.Absent ('\x7d' :: delimiters.closing.toList) content
        (gaps.afterContent.val ++ '\x7d' :: delimiters.closing.toList)
  | change _ _ _ => True

/-- Each of some items can be told from what is printed after it. -/
def LegibleAll (delimiters : Delimiters) : List Item → Prop
  | [] => True
  | item :: rest =>
    item.Legible delimiters (printAll (item.next delimiters) rest) ∧
      LegibleAll (item.next delimiters) rest

instance (delimiters : Delimiters) (following : List Char) (item : Item) :
    Decidable (item.Legible delimiters following) := by
  cases item <;> unfold Legible <;> infer_instance

instance LegibleAll.decidable (delimiters : Delimiters) :
    (items : List Item) → Decidable (LegibleAll delimiters items)
  | [] => isTrue trivial
  | item :: rest =>
    have := LegibleAll.decidable (item.next delimiters) rest
    inferInstanceAs (Decidable (_ ∧ _))

/-- The delimiters in force after some items. -/
def final (delimiters : Delimiters) (items : List Item) : Delimiters := items.foldl next delimiters

end Item

/-! ### Two words -/

namespace Delimiters

section Words

variable {word rest : List Char} (black : ∀ char ∈ word, Text.isBlank char = false)
  (ends : ∀ char ∈ rest.head?, Text.isBlank char = true)

include black ends

/-- A word goes up to a blank, or to the end of the text. -/
theorem firstWord_eq : firstWord (word ++ rest) = word := by
  unfold firstWord
  rw [List.takeWhile_append_of_pos fun char member => by rw [black char member]; rfl]
  cases rest with
  | nil => simp
  | cons char rest =>
    rw [List.takeWhile_cons_of_neg (by rw [ends char rfl]; decide), List.append_nil]

theorem afterFirstWord_eq : afterFirstWord (word ++ rest) = Text.afterBlanks rest := by
  unfold afterFirstWord
  rw [List.dropWhile_append_of_pos fun char member => by rw [black char member]; rfl]
  cases rest with
  | nil => rfl
  | cons char rest => rw [List.dropWhile_cons_of_neg (by rw [ends char rfl]; decide)]

end Words

/-- **Two words with blanks between them are a pair**, whatever words come behind them. -/
theorem ofText?_of_words {delimiters : Delimiters} {between further : List Char}
    (opening : ∀ char ∈ delimiters.opening.toList, Text.isBlank char = false)
    (closing : ∀ char ∈ delimiters.closing.toList, Text.isBlank char = false)
    (blank : Text.Blank between) (some : between ≠ [])
    (apart : ∀ char ∈ further.head?, Text.isBlank char = true) :
    ofText? (String.ofList (delimiters.opening.toList ++
      (between ++ (delimiters.closing.toList ++ further)))) = Option.some delimiters := by
  have white : ∀ char ∈ (between ++ (delimiters.closing.toList ++ further)).head?,
      Text.isBlank char = true := by
    obtain ⟨first, rest, rfl⟩ := List.exists_cons_of_ne_nil some
    intro char member
    cases member
    exact blank first List.mem_cons_self
  have ink : Text.InkFirst (delimiters.closing.toList ++ further) :=
    Text.InkFirst.append_of_ne (fun char member => closing char (List.mem_of_mem_head? member))
      delimiters.closing_toList_ne _
  unfold ofText? ofPair?
  rw [String.toList_ofList, firstWord_eq opening white, afterFirstWord_eq opening white,
    Text.afterBlanks_append_ink blank ink, firstWord_eq closing apart, String.ofList_toList,
    String.ofList_toList, dif_pos ⟨delimiters.opening_ne, delimiters.closing_ne⟩]

end Delimiters

/-! ### Pairs of delimiters -/

namespace DelimiterPair

variable (pair : DelimiterPair)

theorem opening_ne : pair.delimiters.opening.toList ≠ [] := pair.delimiters.opening_toList_ne

theorem closing_ne : pair.delimiters.closing.toList ≠ [] := pair.delimiters.closing_toList_ne

theorem inkFirst_closing : Text.InkFirst pair.delimiters.closing.toList := fun char member =>
  (pair.closing_plain char (List.mem_of_mem_head? member)).1

theorem inkFirst_text : Text.InkFirst pair.text :=
  Text.InkFirst.append_of_ne
    (fun char member => (pair.opening_plain char (List.mem_of_mem_head? member)).1)
    pair.opening_ne _

theorem inkLast_text : Text.InkLast pair.text := by
  intro char member
  unfold text at member
  rw [← List.append_assoc, List.getLast?_append_of_ne_nil _ pair.closing_ne] at member
  exact (pair.closing_plain char (List.mem_of_mem_getLast? member)).1

/-- There is no equals sign in the text of a pair. -/
theorem equals_absent (following : List Char) : Text.Absent ['='] pair.text following := by
  intro part suffix some begins
  obtain ⟨char, rest, rfl⟩ := List.exists_cons_of_ne_nil some
  obtain ⟨rfl, _⟩ := List.cons_prefix_cons.mp begins
  have member : '=' ∈ pair.text := suffix.subset List.mem_cons_self
  have black : Text.isBlank '=' = false := by decide +kernel
  unfold text at member
  rcases List.mem_append.mp member with inside | inside
  · exact (pair.opening_plain '=' inside).2 rfl
  · rcases List.mem_append.mp inside with inside | inside
    · rw [pair.between.property '=' inside] at black
      cases black
    · exact (pair.closing_plain '=' inside).2 rfl

/-- **The text of a pair names it.** -/
theorem ofText?_text : Delimiters.ofText? (String.ofList pair.text) = some pair.delimiters := by
  have opening : ∀ char ∈ pair.delimiters.opening.toList, Text.isBlank char = false :=
    fun char member => (pair.opening_plain char member).1
  have closing : ∀ char ∈ pair.delimiters.closing.toList, Text.isBlank char = false :=
    fun char member => (pair.closing_plain char member).1
  have nothing : ∀ char ∈ ([] : List Char).head?, Text.isBlank char = true := nofun
  have words := Delimiters.ofText?_of_words opening closing pair.between.property pair.between_ne
    nothing
  rwa [List.append_nil] at words

end DelimiterPair

/-! ### The parts of a printed tag -/

section Tag

variable {delimiters : Delimiters} {offset : Int} {following : List Char}

/-- A tag is read once its sigil, its content and its closing delimiter are found. -/
theorem readTag?_parts {inside content afterSigil gap : List Char} {sigil : Option Char}
    (ink : Text.InkFirst delimiters.closing.toList)
    (sort : readSigil (Text.afterBlanks (inside ++ (delimiters.closing.toList ++ following))) =
      (sigil, afterSigil))
    (read : readContent delimiters sigil (Text.afterBlanks afterSigil) =
      (content, gap ++ (delimiters.closing.toList ++ following)))
    (blank : Text.Blank gap) :
    readTag? delimiters offset
        (delimiters.opening.toList ++ (inside ++ (delimiters.closing.toList ++ following))) =
      some (.ofKind (kindOf sigil) ⟨String.ofList content, offset,
        offset + (delimiters.opening.toList ++ (inside ++ delimiters.closing.toList)).length⟩,
        following) := by
  have size : delimiters.closingPattern.matchLength?
      (gap ++ (delimiters.closing.toList ++ following)) =
        some (gap ++ delimiters.closing.toList).length := by
    unfold Delimiters.closingPattern
    rw [Pattern.matchLength?_closing,
      Pattern.blanksBefore?_ink following ink delimiters.closing_toList_ne blank, Option.map_some,
      List.length_append]
  have rest : (gap ++ (delimiters.closing.toList ++ following)).drop
      (gap ++ delimiters.closing.toList).length = following := by
    rw [← List.append_assoc, List.drop_left]
  have length : (delimiters.opening.toList ++
      (inside ++ (delimiters.closing.toList ++ following))).length - following.length =
        (delimiters.opening.toList ++ (inside ++ delimiters.closing.toList)).length := by
    simp only [List.length_append]
    omega
  rw [readTag?_eq sort read size, rest, length]
  rfl

/-- The blanks around a content: what is left of them once the blanks before it are passed over. -/
theorem afterBlanks_content {before content behind tail : List Char} (blank : Text.Blank before)
    (first : Text.InkFirst content) (white : Text.Blank behind) (ink : Text.InkFirst tail) :
    ∃ gap, Text.Blank gap ∧ (content = [] → gap = []) ∧ (content ≠ [] → gap = behind) ∧
      Text.afterBlanks (before ++ (content ++ (behind ++ tail))) = content ++ (gap ++ tail) := by
  by_cases empty : content = []
  · refine ⟨[], Text.blank_nil, fun _ => rfl, fun some => (some empty).elim, ?_⟩
    rw [empty, List.nil_append, List.nil_append, List.nil_append, ← List.append_assoc,
      Text.afterBlanks_append_ink (blank.append white) ink]
  · exact ⟨behind, white, fun none => (empty none).elim, fun _ => rfl,
      Text.afterBlanks_append_ink blank (first.append_of_ne empty _)⟩

/-- **A content is read up to what closes it**, whatever blanks are left before that. -/
theorem scanUntil_content {closer content gap behind : List Char} (last : Text.InkLast content)
    (same : content ≠ [] → gap = behind) (blank : Text.Blank gap)
    (absent : Text.Absent closer content (behind ++ closer)) (following : List Char) :
    (Pattern.closing closer).scanUntil (content ++ (gap ++ (closer ++ following))) =
      (content, gap ++ (closer ++ following)) := by
  refine Pattern.scanUntil_miss_hit ?_ (Pattern.hits_closing.mpr ⟨gap, following, rfl, blank⟩)
  refine Pattern.closing_misses last fun part suffix some => ?_
  have ne : content ≠ [] := fun empty => some (List.eq_nil_of_suffix_nil (empty ▸ suffix))
  rw [same ne, ← List.append_assoc behind]
  exact absent.append following part suffix some

theorem inkFirst_closing (ink : Text.InkFirst delimiters.closing.toList) (following : List Char) :
    Text.InkFirst (delimiters.closing.toList ++ following) :=
  ink.append_of_ne delimiters.closing_toList_ne following

/-- No sigil stands before a content that starts with none, whatever blanks follow it. -/
theorem unsigned_content {content gap : List Char}
    (plain : Unsigned (content ++ delimiters.closing.toList)) (empty : content = [] → gap = [])
    (following : List Char) :
    Unsigned (content ++ (gap ++ (delimiters.closing.toList ++ following))) := by
  intro char member
  refine plain char ?_
  by_cases none : content = []
  · rw [none, empty none, List.nil_append, List.nil_append,
      List.head?_append_of_ne_nil _ delimiters.closing_toList_ne] at member
    rw [none, List.nil_append]
    exact member
  · rw [List.head?_append_of_ne_nil _ none] at member ⊢
    exact member

/-- What is printed for a tag stands between the delimiters. -/
theorem Item.print_append {item : Item} (tag : ∀ run, item ≠ .text run) :
    item.print delimiters ++ following =
      delimiters.opening.toList ++ (item.inside ++ (delimiters.closing.toList ++ following)) := by
  cases item with
  | text run => exact (tag run rfl).elim
  | _ => simp only [print, List.append_assoc]

/-! ### Each sort of tag -/

/-- A tag with a sigil or none. -/
theorem readTag?_tag {sort : TagSort} {gaps : Gaps} {content : List Char}
    (ink : Text.InkFirst delimiters.closing.toList)
    (legible : (Item.tag sort gaps content).Legible delimiters following) :
    readTag? delimiters offset ((Item.tag sort gaps content).print delimiters ++ following) =
      some (.ofKind sort.kind ⟨String.ofList content, offset,
        offset + ((Item.tag sort gaps content).print delimiters).length⟩, following) := by
  obtain ⟨first, last, absent, plain⟩ := legible
  have tail := inkFirst_closing ink following
  rw [Item.print_append (fun run same => by cases same), ← sort.kindOf_sigil]
  match name : sort.sigil with
  | some char =>
    obtain ⟨member, black⟩ := TagSort.sigil_mem name
    obtain ⟨gap, blank, _, same, inside⟩ := afterBlanks_content gaps.afterSigil.property first
      gaps.afterContent.property tail
    have sigil : Text.afterBlanks ((Item.tag sort gaps content).inside ++
        (delimiters.closing.toList ++ following)) = char :: (gaps.afterSigil.val ++
          (content ++ (gaps.afterContent.val ++ (delimiters.closing.toList ++ following)))) := by
      simp only [Item.inside, name, Option.toList_some, List.append_assoc, List.cons_append,
        List.nil_append]
      exact Text.afterBlanks_append_ink gaps.beforeSigil.property (Text.inkFirst_cons black _)
    refine readTag?_parts ink (by rw [sigil, readSigil_mem member]) ?_ blank
    rw [inside, ← name, sort.readContent_sigil]
    exact scanUntil_content last same blank absent following
  | none =>
    have unmarked : sort = .name := by
      cases sort with
      | name => rfl
      | _ => cases name
    obtain ⟨gap, blank, empty, same, inside⟩ := afterBlanks_content
      (gaps.beforeSigil.property.append gaps.afterSigil.property) first
      gaps.afterContent.property tail
    have start : Text.afterBlanks ((Item.tag sort gaps content).inside ++
        (delimiters.closing.toList ++ following)) =
          content ++ (gap ++ (delimiters.closing.toList ++ following)) := by
      rw [← inside]
      simp only [Item.inside, name, Option.toList_none, List.append_assoc, List.nil_append]
    have ink' : Text.InkFirst (content ++ (gap ++ (delimiters.closing.toList ++ following))) := by
      rw [← start]
      exact Text.inkFirst_afterBlanks _
    have unsigned := unsigned_content (plain unmarked) empty following
    refine readTag?_parts ink (by rw [start, readSigil_none unsigned]) ?_ blank
    rw [Text.afterBlanks_of_inkFirst ink', ← name, sort.readContent_sigil]
    exact scanUntil_content last same blank absent following

/-- A variable in one more pair of braces. -/
theorem readTag?_braced {gaps : Gaps} {content : List Char}
    (ink : Text.InkFirst delimiters.closing.toList)
    (legible : (Item.braced gaps content).Legible delimiters following) :
    readTag? delimiters offset ((Item.braced gaps content).print delimiters ++ following) =
      some (.ofKind .unescaped ⟨String.ofList content, offset,
        offset + ((Item.braced gaps content).print delimiters).length⟩, following) := by
  obtain ⟨first, last, absent⟩ := legible
  have brace : Text.isBlank '\x7b' = false ∧ Text.isBlank '\x7d' = false := by decide +kernel
  obtain ⟨gap, blank, _, same, inside⟩ := afterBlanks_content gaps.afterSigil.property first
    gaps.afterContent.property
    (Text.inkFirst_cons brace.2 (delimiters.closing.toList ++ following))
  have sigil : Text.afterBlanks ((Item.braced gaps content).inside ++
      (delimiters.closing.toList ++ following)) = '\x7b' :: (gaps.afterSigil.val ++
        (content ++ (gaps.afterContent.val ++
          '\x7d' :: (delimiters.closing.toList ++ following)))) := by
    simp only [Item.inside, List.append_assoc, List.cons_append, List.nil_append]
    exact Text.afterBlanks_append_ink gaps.beforeSigil.property (Text.inkFirst_cons brace.1 _)
  have search : delimiters.closingBracePattern.scanUntil
      (content ++ (gap ++ '\x7d' :: (delimiters.closing.toList ++ following))) =
        (content, gap ++ '\x7d' :: (delimiters.closing.toList ++ following)) :=
    scanUntil_content last same blank absent following
  rw [Item.print_append fun run same => by cases same]
  refine readTag?_parts ink (by rw [sigil, readSigil_mem (by decide)]) ?_ Text.blank_nil
  rw [inside, readContent_braced search blank, List.nil_append]

/-- A delimiter tag. -/
theorem readTag?_change {gaps : Gaps} {pair : DelimiterPair} {last : Blanks}
    (ink : Text.InkFirst delimiters.closing.toList) :
    readTag? delimiters offset ((Item.change gaps pair last).print delimiters ++ following) =
      some (.ofKind .delimiters ⟨String.ofList pair.text, offset,
        offset + ((Item.change gaps pair last).print delimiters).length⟩, following) := by
  have black : Text.isBlank '=' = false := by decide +kernel
  obtain ⟨gap, blank, _, same, inside⟩ := afterBlanks_content gaps.afterSigil.property
    pair.inkFirst_text gaps.afterContent.property
    (Text.inkFirst_cons black (last.val ++ (delimiters.closing.toList ++ following)))
  have sigil : Text.afterBlanks ((Item.change gaps pair last).inside ++
      (delimiters.closing.toList ++ following)) = '=' :: (gaps.afterSigil.val ++
        (pair.text ++ (gaps.afterContent.val ++
          '=' :: (last.val ++ (delimiters.closing.toList ++ following))))) := by
    simp only [Item.inside, List.append_assoc, List.cons_append]
    exact Text.afterBlanks_append_ink gaps.beforeSigil.property (Text.inkFirst_cons black _)
  have search : Pattern.equalsSign.scanUntil
      (pair.text ++ (gap ++ '=' :: (last.val ++ (delimiters.closing.toList ++ following)))) =
        (pair.text, gap ++ '=' :: (last.val ++ (delimiters.closing.toList ++ following))) :=
    scanUntil_content pair.inkLast_text same blank (pair.equals_absent _) _
  have stay : delimiters.closingPattern.scanUntil
      (last.val ++ (delimiters.closing.toList ++ following)) =
        ([], last.val ++ (delimiters.closing.toList ++ following)) :=
    Pattern.scanUntil_hit (Pattern.hits_closing.mpr ⟨last.val, following, rfl, last.property⟩)
  rw [Item.print_append fun run same => by cases same]
  refine readTag?_parts ink (by rw [sigil, readSigil_mem (by decide)]) ?_ last.property
  rw [inside, readContent_change search blank, stay]

end Tag

/-! ### Templates -/

variable {delimiters : Delimiters}

theorem textTokens_eq (offset : Int) (run : List Char) :
    textTokens offset run = run.mapIdx fun index char => charToken char (offset + index) := by
  induction run generalizing offset with
  | nil => rfl
  | cons char rest hypothesis =>
    have start : offset + ((0 : Nat) : Int) = offset := Int.add_zero offset
    have shift : ∀ index : Nat, offset + 1 + (index : Int) = offset + ((index + 1 : Nat) : Int) :=
      fun index => by omega
    rw [textTokens, hypothesis, List.mapIdx_cons, start]
    simp only [shift]
    rfl

theorem Item.tokens_text (offset : Int) (run : List Char) :
    (Item.text run).tokens delimiters offset = textTokens offset run :=
  (textTokens_eq offset run).symm

/-- **A printed tag is read as its token**, whatever is printed after it. -/
theorem readTag?_print {item : Item} {offset : Int} {following : List Char}
    (ink : Text.InkFirst delimiters.closing.toList) (legible : item.Legible delimiters following)
    (tag : ∀ run, item ≠ .text run) :
    readTag? delimiters offset (item.print delimiters ++ following) =
      some (.ofKind item.kind ⟨String.ofList item.content, offset,
        offset + (item.print delimiters).length⟩, following) := by
  cases item with
  | text run => exact (tag run rfl).elim
  | tag sort gaps content => exact readTag?_tag ink legible
  | braced gaps content => exact readTag?_braced ink legible
  | change gaps pair last => exact readTag?_change ink

theorem delimitersAfter?_print (item : Item) (offset stop : Int) :
    delimitersAfter? delimiters (.ofKind item.kind ⟨String.ofList item.content, offset, stop⟩) =
      some (item.next delimiters) := by
  cases item with
  | text run => rfl
  | tag sort gaps content => cases sort <;> rfl
  | braced gaps content => rfl
  | change gaps pair last => exact pair.ofText?_text

theorem inkFirst_next (ink : Text.InkFirst delimiters.closing.toList) (item : Item) :
    Text.InkFirst (item.next delimiters).closing.toList := by
  cases item with
  | change gaps pair last => exact pair.inkFirst_closing
  | _ => exact ink

/-- What is printed for a tag starts with the opening delimiter. -/
theorem opens_print {item : Item} (tag : ∀ run, item ≠ .text run) (following : List Char) :
    delimiters.opening.toList <+: item.print delimiters ++ following := by
  rw [Item.print_append tag]
  exact List.prefix_append _ _

theorem tokens_tag {item : Item} (tag : ∀ run, item ≠ .text run) (offset : Int) :
    item.tokens delimiters offset = [.ofKind item.kind ⟨String.ofList item.content, offset,
      offset + (item.print delimiters).length⟩] := by
  cases item with
  | text run => exact (tag run rfl).elim
  | _ => rfl

/-- **One item is lexed as its tokens**, and what is printed after it as if it stood alone. -/
theorem lex_print {item : Item} {offset : Int} {following : List Char}
    (ink : Text.InkFirst delimiters.closing.toList) (legible : item.Legible delimiters following) :
    lex delimiters offset (item.print delimiters ++ following) =
      (lex (item.next delimiters) (offset + (item.print delimiters).length) following).prepend
        (item.tokens delimiters offset) := by
  by_cases text : ∃ run, item = .text run
  · obtain ⟨run, rfl⟩ := text
    rw [Item.tokens_text]
    exact lex_skip legible
  · have tag : ∀ run, item ≠ .text run := fun run same => text ⟨run, same⟩
    rw [lex_tag (opens_print tag following) (readTag?_print ink legible tag)
      (delimitersAfter?_print item _ _), span_ofKind, tokens_tag tag]

/-- **Some items are lexed as their tokens.** -/
theorem lex_printAll {items : List Item} {offset : Int}
    (ink : Text.InkFirst delimiters.closing.toList) (legible : Item.LegibleAll delimiters items) :
    lex delimiters offset (Item.printAll delimiters items) =
      ⟨Item.tokensOf delimiters offset items, none, Item.final delimiters items⟩ := by
  induction items generalizing delimiters offset with
  | nil => exact lex_nil
  | cons item rest hypothesis =>
    obtain ⟨here, later⟩ := legible
    rw [Item.printAll, lex_print ink here, hypothesis (inkFirst_next ink item) later]
    rfl

/-- **Lexing undoes printing.** The template of some items has exactly their tokens, provided that
each item can be told from what is printed after it, that the sections of the items are balanced,
and that the closing delimiter does not start with a blank. The tokens of partial tags also carry
what their lines hold before them. -/
theorem tokenize_printAll (items : List Item) (ink : Text.InkFirst delimiters.closing.toList)
    (legible : Item.LegibleAll delimiters items)
    (balanced : Token.Balanced (Item.tokensOf delimiters 0 items)) :
    tokenize delimiters (String.ofList (Item.printAll delimiters items)) =
      .ok (Token.annotate {} (Item.tokensOf delimiters 0 items)) := by
  have lexed : lex delimiters 0 (Item.printAll delimiters items) = _ := lex_printAll ink legible
  refine tokenize_eq_ok_iff.mpr ?_
  rw [String.toList_ofList, lexed]
  exact ⟨rfl, balanced, rfl⟩

/-- A section with a variable in three braces, whose delimiters are changed before it ends. -/
def Item.sample : List Item :=
  let none : Blanks := ⟨[], by decide +kernel⟩
  let one : Blanks := ⟨[' '], by decide +kernel⟩
  let change : DelimiterPair := {
    delimiters := ⟨"<%", "%>", by decide, by decide⟩
    between := one
    between_ne := by decide
    opening_plain := by decide +kernel
    closing_plain := by decide +kernel }
  [.text ['a', ' ', '\x7b', ' '], .tag .plainSection ⟨one, none, one⟩ ['s', '=', '\x7d'],
    .braced ⟨none, one, one⟩ ['\x7d', 'x'], .change ⟨none, one, one⟩ change one,
    .text ['\x7b', '\x7b', '\n'], .tag .name ⟨none, none, none⟩ [],
    .tag .close ⟨none, one, none⟩ ['s', '=', '\x7d']]

/-- The template of the sample. -/
def Item.sampleTemplate : String :=
  "a \x7b \x7b\x7b #s=\x7d \x7d\x7d\x7b\x7b\x7b \x7dx \x7d\x7d\x7d" ++
    "\x7b\x7b= <% %> = \x7d\x7d\x7b\x7b\n<%%><%/ s=\x7d%>"

theorem tokenize_printAll_sample :
    Text.InkFirst Delimiters.standard.closing.toList ∧ Item.LegibleAll .standard Item.sample ∧
      Token.Balanced (Item.tokensOf .standard 0 Item.sample) ∧
      tokenize .standard Item.sampleTemplate =
        .ok (Token.annotate {} (Item.tokensOf .standard 0 Item.sample)) := by
  have ink : Text.InkFirst Delimiters.standard.closing.toList := by decide +kernel
  have legible : Item.LegibleAll .standard Item.sample := by decide +kernel
  have balanced : Token.Balanced (Item.tokensOf .standard 0 Item.sample) := by decide +kernel
  exact ⟨ink, legible, balanced, tokenize_printAll Item.sample ink legible balanced⟩

end Mustache
