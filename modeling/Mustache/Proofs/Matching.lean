import Mathlib.Data.List.Infix
import Mathlib.Data.List.TakeWhile
import Mustache.Template.Lexer

/-!
**Where the patterns of the template language match.**

An opening pattern matches where its delimiter stands, and a closing pattern where its content
stands behind any number of blanks. A search stops at the first such place. Both facts are put into
words that do not mention patterns:

* `Text.Blank`, `Text.InkFirst`, `Text.InkLast`: blank texts, and texts that do not start or end
  with a blank.
* `Text.Absent`: a content begins nowhere in a run of characters that stands before others.
* `scanUntil_eq`, `scanUntil_spec`: where a search stops.
* `blanksBefore?_spec`, `blanksBefore?_ink`: how much a closing pattern matches.
* `closing_misses`: a closing pattern misses a run that its content is absent from.
-/

namespace Mustache

/-! ### Blanks and ink -/

namespace Text

/-- A text of blanks only. -/
def Blank (text : List Char) : Prop := ∀ char ∈ text, isBlank char = true

/-- A text that does not start with a blank; it may be empty. -/
def InkFirst (text : List Char) : Prop := ∀ char ∈ text.head?, isBlank char = false

/-- A text that does not end with a blank; it may be empty. -/
def InkLast (text : List Char) : Prop := ∀ char ∈ text.getLast?, isBlank char = false

instance (text : List Char) : Decidable (Blank text) :=
  List.decidableBAll (fun char => isBlank char = true) text

instance (text : List Char) : Decidable (InkFirst text) :=
  Option.decidableForallMem (p := fun char => isBlank char = false) text.head?

instance (text : List Char) : Decidable (InkLast text) :=
  Option.decidableForallMem (p := fun char => isBlank char = false) text.getLast?

theorem blank_nil : Blank [] := fun _ member => (List.not_mem_nil member).elim

theorem blank_space : Blank [' '] := by decide +kernel

theorem Blank.append {first second : List Char} (left : Blank first) (right : Blank second) :
    Blank (first ++ second) := by
  intro char member
  rcases List.mem_append.mp member with inside | inside
  · exact left char inside
  · exact right char inside

theorem blank_blankRun (text : List Char) : Blank (blankRun text) := by
  intro char member
  exact List.mem_takeWhile_imp member

/-- What follows the blanks of a text does not start with a blank. -/
theorem inkFirst_afterBlanks (text : List Char) : InkFirst (afterBlanks text) := by
  intro char member
  have kept := List.head?_dropWhile_not isBlank text
  unfold afterBlanks at member
  rw [Option.mem_def] at member
  rw [member] at kept
  exact kept

theorem afterBlanks_of_inkFirst {text : List Char} (ink : InkFirst text) :
    afterBlanks text = text := by
  cases text with
  | nil => rfl
  | cons char rest =>
    have first : isBlank char = false := ink char rfl
    unfold afterBlanks
    rw [List.dropWhile_cons_of_neg (by rw [first]; exact Bool.false_ne_true)]

theorem afterBlanks_append {blanks rest : List Char} (blank : Blank blanks) :
    afterBlanks (blanks ++ rest) = afterBlanks rest :=
  List.dropWhile_append_of_pos blank

/-- The blanks before ink are passed over, and nothing else. -/
theorem afterBlanks_append_ink {blanks rest : List Char} (blank : Blank blanks)
    (ink : InkFirst rest) : afterBlanks (blanks ++ rest) = rest := by
  rw [afterBlanks_append blank, afterBlanks_of_inkFirst ink]

theorem InkFirst.append_of_ne {first : List Char} (left : InkFirst first) (some : first ≠ [])
    (second : List Char) : InkFirst (first ++ second) := by
  cases first with
  | nil => exact (some rfl).elim
  | cons char rest => exact left

theorem inkFirst_cons {char : Char} (black : isBlank char = false) (rest : List Char) :
    InkFirst (char :: rest) := by
  intro other same
  cases same
  exact black

/-- There are no blanks before ink. -/
theorem Blank.eq_nil {gap following : List Char} (blank : Blank gap)
    (ink : InkFirst (gap ++ following)) : gap = [] := by
  cases gap with
  | nil => rfl
  | cons char rest =>
    have white := blank char List.mem_cons_self
    rw [ink char rfl] at white
    cases white

/-- **The end of a text that does not end with a blank is not blank.** -/
theorem InkLast.not_blank {text part : List Char} (ink : InkLast text) (suffix : part <:+ text)
    (some : part ≠ []) : ¬ Blank part := by
  intro blank
  have last := suffix.getLast some
  have white := blank (part.getLast some) (List.getLast_mem some)
  have black : isBlank (part.getLast some) = false := by
    rw [last]
    exact ink _ (List.getLast_mem_getLast? _)
  rw [white] at black
  cases black

/-- A content begins nowhere in a run of characters that stands before others, though it may begin
behind the run. -/
def Absent (content run following : List Char) : Prop :=
  ∀ part, part <:+ run → part ≠ [] → ¬ content <+: part ++ following

instance (content run following : List Char) : Decidable (Absent content run following) :=
  decidable_of_iff (∀ part ∈ run.tails, part ≠ [] → ¬ content <+: part ++ following)
    ⟨fun all part suffix => all part ((List.mem_tails _ _).mpr suffix),
      fun absent part member => absent part ((List.mem_tails _ _).mp member)⟩

/-- What lies behind the content does not matter. -/
theorem Absent.append {content run gap : List Char}
    (absent : Absent content run (gap ++ content)) (following : List Char) :
    Absent content run (gap ++ content ++ following) := by
  intro part suffix some begins
  refine absent part suffix some (List.prefix_of_prefix_length_le begins ?_ ?_)
  · exact ⟨following, by simp only [List.append_assoc]⟩
  · simp only [List.length_append]
    omega

theorem Absent.of_append {content run following behind : List Char}
    (absent : Absent content run (following ++ behind)) : Absent content run following := by
  intro part suffix some begins
  refine absent part suffix some (begins.trans ?_)
  rw [← List.append_assoc]
  exact List.prefix_append _ _

/-- A content that starts with ink does not begin within blanks. -/
theorem absent_blank {content gap : List Char} (ink : InkFirst content) (some : content ≠ [])
    (blank : Blank gap) (following : List Char) : Absent content gap following := by
  intro part suffix ne begins
  obtain ⟨char, rest, rfl⟩ := List.exists_cons_of_ne_nil ne
  obtain ⟨first, content, rfl⟩ := List.exists_cons_of_ne_nil some
  obtain ⟨rfl, _⟩ := List.cons_prefix_cons.mp begins
  have white := blank first (suffix.subset List.mem_cons_self)
  rw [ink first rfl] at white
  cases white

/-- A content is absent from two runs one after the other if it is absent from each. -/
theorem Absent.append_run {content first second following : List Char}
    (left : Absent content first (second ++ following)) (right : Absent content second following) :
    Absent content (first ++ second) following := by
  intro part suffix ne begins
  obtain ⟨before, same⟩ := suffix
  rcases List.append_eq_append_iff.mp same with ⟨more, rfl, rfl⟩ | ⟨more, rfl, rfl⟩
  · by_cases empty : more = []
    · rw [empty, List.nil_append] at begins ne
      exact right second List.suffix_rfl ne begins
    · rw [List.append_assoc] at begins
      exact left more (List.suffix_append _ _) empty begins
  · exact right part (List.suffix_append _ _) ne begins

end Text

namespace Pattern

/-! ### How much a pattern matches -/

theorem hits_opening {content text : List Char} :
    (opening content).hits text = true ↔ content <+: text := by
  unfold hits matchLength?
  by_cases start : content.isPrefixOf text = true
  · simp only [start, if_true, Option.isSome_some, true_iff]
    exact List.isPrefixOf_iff_prefix.mp start
  · simp only [start, if_false, Option.isSome_none, Bool.false_eq_true, false_iff]
    exact fun begins => start (List.isPrefixOf_iff_prefix.mpr begins)

theorem matchLength?_opening (content rest : List Char) :
    (opening content).matchLength? (content ++ rest) =
      some (content.length + (Text.blankRun rest).length) := by
  have here : content.isPrefixOf (content ++ rest) = true :=
    List.isPrefixOf_iff_prefix.mpr (List.prefix_append _ _)
  show (if content.isPrefixOf (content ++ rest) = true then _ else _) = _
  rw [if_pos here, List.drop_left]
  rfl

theorem matchLength?_closing (content text : List Char) :
    (closing content).matchLength? text =
      (blanksBefore? content text).map (· + content.length) := rfl

/-- **No pattern matches less than its content.** -/
theorem length_le_opening {content text : List Char} {size : Nat}
    (found : (opening content).matchLength? text = some size) : content.length ≤ size := by
  unfold matchLength? at found
  simp only at found
  split at found
  · cases found
    omega
  · cases found

theorem length_le_closing {content text : List Char} {size : Nat}
    (found : (closing content).matchLength? text = some size) : content.length ≤ size := by
  obtain ⟨count, _, rfl⟩ := Option.map_eq_some_iff.mp found
  omega

/-- A pattern that matches is passed over. -/
theorem scan_eq {pattern : Pattern} {text : List Char} {size : Nat}
    (found : pattern.matchLength? text = some size) :
    pattern.scan text = (text.take size, text.drop size) := by
  unfold scan
  rw [found, Option.getD_some, List.splitAt_eq]

/-- An opening pattern passes over its content and the blanks behind it. -/
theorem scan_opening (content rest : List Char) :
    (opening content).scan (content ++ rest) =
      (content ++ Text.blankRun rest, Text.afterBlanks rest) := by
  have whole : content ++ rest = (content ++ Text.blankRun rest) ++ Text.afterBlanks rest := by
    rw [List.append_assoc, Text.blankRun_append_afterBlanks]
  rw [scan_eq (matchLength?_opening content rest), ← List.length_append, whole, List.take_left,
    List.drop_left]

/-- **What a closing pattern matches**: blanks and its content. -/
theorem blanksBefore?_spec {content text : List Char} {count : Nat}
    (found : blanksBefore? content text = some count) :
    ∃ blanks rest, text = blanks ++ (content ++ rest) ∧ Text.Blank blanks ∧
      blanks.length = count := by
  induction text generalizing count with
  | nil =>
    unfold blanksBefore? at found
    split at found
    · rename_i empty
      cases found
      rw [List.isEmpty_iff.mp empty]
      exact ⟨[], [], rfl, Text.blank_nil, rfl⟩
    · cases found
  | cons char rest hypothesis =>
    unfold blanksBefore? at found
    split at found
    · rename_i before later
      cases found
      split at later
      · rename_i blank
        obtain ⟨blanks, behind, rfl, all, rfl⟩ := hypothesis later
        refine ⟨char :: blanks, behind, rfl, ?_, rfl⟩
        intro other member
        rcases List.mem_cons.mp member with rfl | inside
        · exact blank
        · exact all other inside
      · cases later
    · split at found
      · rename_i here
        cases found
        obtain ⟨behind, same⟩ := List.isPrefixOf_iff_prefix.mp here
        exact ⟨[], behind, same.symm, Text.blank_nil, rfl⟩
      · cases found

/-- A closing pattern matches wherever its content stands behind blanks. -/
theorem blanksBefore?_isSome {content blanks : List Char} (rest : List Char)
    (blank : Text.Blank blanks) :
    (blanksBefore? content (blanks ++ (content ++ rest))).isSome = true := by
  induction blanks with
  | nil =>
    have here : content.isPrefixOf (content ++ rest) = true :=
      List.isPrefixOf_iff_prefix.mpr (List.prefix_append content rest)
    rw [List.nil_append]
    cases whole : content ++ rest with
    | nil =>
      obtain ⟨empty, _⟩ := List.append_eq_nil_iff.mp whole
      rw [empty]
      rfl
    | cons char more =>
      rw [whole] at here
      rw [blanksBefore?]
      split
      · rfl
      · rw [if_pos here]
        rfl
  | cons char more hypothesis =>
    have first : Text.isBlank char = true := blank char List.mem_cons_self
    have later := hypothesis fun other member => blank other (List.mem_cons_of_mem _ member)
    obtain ⟨count, found⟩ := Option.isSome_iff_exists.mp later
    rw [List.cons_append, blanksBefore?, if_pos first, found]
    rfl

theorem hits_closing {content text : List Char} :
    (closing content).hits text = true ↔
      ∃ blanks rest, text = blanks ++ (content ++ rest) ∧ Text.Blank blanks := by
  unfold hits matchLength?
  rw [Option.isSome_map]
  constructor
  · intro found
    obtain ⟨count, same⟩ := Option.isSome_iff_exists.mp found
    obtain ⟨blanks, rest, whole, blank, _⟩ := blanksBefore?_spec same
    exact ⟨blanks, rest, whole, blank⟩
  · rintro ⟨blanks, rest, rfl, blank⟩
    exact blanksBefore?_isSome rest blank

theorem hits_closing_here (content rest : List Char) :
    (closing content).hits (content ++ rest) = true :=
  hits_closing.mpr ⟨[], rest, rfl, Text.blank_nil⟩

/-- A content that does not start with a blank stands behind one number of blanks only. -/
theorem blanksBefore?_ink {content blanks : List Char} (rest : List Char)
    (ink : Text.InkFirst content) (some : content ≠ []) (blank : Text.Blank blanks) :
    blanksBefore? content (blanks ++ (content ++ rest)) = .some blanks.length := by
  obtain ⟨count, found⟩ := Option.isSome_iff_exists.mp (blanksBefore?_isSome rest blank)
  obtain ⟨other, behind, same, white, rfl⟩ := blanksBefore?_spec found
  have behinds : content ++ rest = content ++ behind := by
    rw [← Text.afterBlanks_append_ink blank (ink.append_of_ne some rest), same,
      Text.afterBlanks_append_ink white (ink.append_of_ne some behind)]
  rw [behinds] at same
  rw [found, List.append_cancel_right same]

/-- A closing pattern passes over blanks and its content. -/
theorem scan_closing {content blanks : List Char} (rest : List Char)
    (ink : Text.InkFirst content) (some : content ≠ []) (blank : Text.Blank blanks) :
    (closing content).scan (blanks ++ (content ++ rest)) = (blanks ++ content, rest) := by
  have size : (closing content).matchLength? (blanks ++ (content ++ rest)) =
      .some (blanks ++ content).length := by
    rw [matchLength?_closing, blanksBefore?_ink rest ink some blank, Option.map_some,
      List.length_append]
  rw [scan_eq size, ← List.append_assoc, List.take_left, List.drop_left]

/-- A mark is passed over with the blanks before it. -/
theorem scan_mark {mark : Char} {blanks : List Char} (rest : List Char)
    (black : Text.isBlank mark = false) (blank : Text.Blank blanks) :
    (closing [mark]).scan (blanks ++ mark :: rest) = (blanks ++ [mark], rest) :=
  @scan_closing [mark] blanks rest (Text.inkFirst_cons black [])
    (List.cons_ne_nil _ _) blank

/-! ### Where a search stops -/

/-- A pattern that matches at no place of a run of characters that stands before others. -/
def Misses (pattern : Pattern) (run following : List Char) : Prop :=
  ∀ part, part <:+ run → part ≠ [] → pattern.hits (part ++ following) = false

/-- **A search passes over what the pattern misses.** -/
theorem scanUntil_eq {pattern : Pattern} {run following : List Char}
    (misses : pattern.Misses run following) :
    pattern.scanUntil (run ++ following) =
      (run ++ (pattern.scanUntil following).1, (pattern.scanUntil following).2) := by
  induction run with
  | nil => rfl
  | cons char rest hypothesis =>
    have here := misses (char :: rest) List.suffix_rfl (List.cons_ne_nil _ _)
    have later := hypothesis fun part suffix some =>
      misses part (suffix.trans (List.suffix_cons _ _)) some
    rw [List.cons_append] at here ⊢
    rw [scanUntil, here, if_neg Bool.false_ne_true, later]
    rfl

/-- A search stops at once where the pattern matches. -/
theorem scanUntil_hit {pattern : Pattern} {text : List Char} (hit : pattern.hits text = true) :
    pattern.scanUntil text = ([], text) := by
  cases text with
  | nil => rfl
  | cons char rest => rw [scanUntil, if_pos hit]

theorem scanUntil_miss_hit {pattern : Pattern} {run following : List Char}
    (misses : pattern.Misses run following) (hit : pattern.hits following = true) :
    pattern.scanUntil (run ++ following) = (run, following) := by
  rw [scanUntil_eq misses, scanUntil_hit hit, List.append_nil]

/-- **A search passes over nothing else**: the pattern misses what comes before the place where it
stops, and matches there unless that is the end. -/
theorem scanUntil_spec (pattern : Pattern) (text : List Char) :
    pattern.Misses (pattern.scanUntil text).1 (pattern.scanUntil text).2 ∧
      ((pattern.scanUntil text).2 = [] ∨ pattern.hits (pattern.scanUntil text).2 = true) := by
  induction text with
  | nil =>
    refine ⟨fun part suffix some => ?_, Or.inl rfl⟩
    exact (some (List.eq_nil_of_suffix_nil suffix)).elim
  | cons char rest hypothesis =>
    by_cases hit : pattern.hits (char :: rest) = true
    · rw [scanUntil_hit hit]
      refine ⟨fun part suffix some => ?_, Or.inr hit⟩
      exact (some (List.eq_nil_of_suffix_nil suffix)).elim
    · have whole := scanUntil_append pattern rest
      rw [scanUntil, if_neg hit]
      refine ⟨fun part suffix some => ?_, hypothesis.2⟩
      rcases List.suffix_cons_iff.mp suffix with rfl | inside
      · rw [List.cons_append, whole]
        exact Bool.eq_false_iff.mpr hit
      · exact hypothesis.1 part inside some

/-- The content of a closing pattern is absent from a run that the pattern misses. -/
theorem absent_of_misses {content run following : List Char}
    (misses : (closing content).Misses run following) : Text.Absent content run following := by
  intro part suffix some begins
  obtain ⟨rest, same⟩ := begins
  have missed := misses part suffix some
  rw [← same, hits_closing_here] at missed
  cases missed

/-- **A closing pattern misses a run that its content is absent from**, provided that the run does
not end with a blank. -/
theorem closing_misses {content run following : List Char} (ink : Text.InkLast run)
    (absent : Text.Absent content run following) : (closing content).Misses run following := by
  intro part suffix some
  rw [Bool.eq_false_iff, ne_eq, hits_closing]
  rintro ⟨blanks, rest, same, blank⟩
  rcases List.append_eq_append_iff.mp same with ⟨more, rfl, _⟩ | ⟨more, rfl, later⟩
  · exact ink.not_blank suffix some fun char member => blank char (List.mem_append_left _ member)
  · by_cases empty : more = []
    · rw [empty, List.append_nil] at suffix some
      exact ink.not_blank suffix some blank
    · refine absent more ((List.suffix_append _ _).trans suffix) empty ?_
      rw [← later]
      exact List.prefix_append _ _

end Pattern

end Mustache
