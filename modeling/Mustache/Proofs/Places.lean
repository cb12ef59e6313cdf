import Mustache.Proofs.FirstFault
import Mustache.Proofs.Lines

/-!
**A place stands for one offset.**

The line and the column of an offset are found from the characters before it. Counted over the lines
of the whole text, they lead back to the offset: the lines before it with their line feeds, and the
columns before it on its own line. So places are ordered as their offsets are. The fault of a
template stands at an offset of it, from its start to its end.

* `Text.offsetOf`: the offset that a place stands for.
* `Text.Place.Within`, `Text.Place.Before`: the places of a text, and their order.
* `place_eq`: the place behind the characters before it.
* `within_place`, `offsetOf_place`, `place_before_iff`: places and offsets.
* `FirstFault.position_bounds`: the first fault stands within the template.
* `parseWith_place`: **the main statement.**
-/

namespace Mustache

open Lexer

namespace Text

/-! ### Places and offsets -/

/-- The number of characters of lines that each end with a line feed. -/
def extent : List (List Char) → Nat
  | [] => 0
  | line :: rest => line.length + 1 + extent rest

/-- **The offset that a place stands for**: the lines before it with their line feeds, and the
columns before it. -/
def offsetOf (text : List Char) (place : Place) : Int :=
  (extent ((splitLines text).take (place.line - 1).toNat) : Nat) + place.column - 1

/-- **The places of a text**: those on its lines, and the one behind the last character of each. -/
structure Place.Within (text : List Char) (place : Place) : Prop where
  line_pos : 1 ≤ place.line
  line_le : place.line ≤ (splitLines text).length
  column_pos : 1 ≤ place.column
  column_le : ∀ line ∈ (splitLines text)[(place.line - 1).toNat]?, place.column ≤ line.length + 1

/-- A place on an earlier line, or further to the left on the same line. -/
def Place.Before (first second : Place) : Prop :=
  first.line < second.line ∨ first.line = second.line ∧ first.column < second.column

theorem extent_append (earlier later : List (List Char)) :
    extent (earlier ++ later) = extent earlier + extent later := by
  induction earlier with
  | nil => simp [extent]
  | cons line rest hypothesis => simp [extent, hypothesis, Nat.add_assoc]

theorem length_joinLines_concat (earlier : List (List Char)) (last : List Char) :
    (joinLines (earlier ++ [last])).length = extent earlier + last.length := by
  rw [joinLines_concat, List.length_append]
  congr 1
  induction earlier with
  | nil => rfl
  | cons line rest hypothesis =>
    rw [List.flatMap_cons, List.length_append, hypothesis, List.length_append]
    rfl

/-- There is one line feed fewer than there are lines. -/
theorem count_joinLines_concat {earlier : List (List Char)} {last : List Char}
    (single : ∀ line ∈ earlier ++ [last], '\n' ∉ line) :
    (joinLines (earlier ++ [last])).count '\n' = earlier.length := by
  have none : last.count '\n' = 0 := List.count_eq_zero.mpr (single last (by simp))
  rw [joinLines_concat, List.count_append, none, List.count_flatMap, Nat.add_zero]
  have one : ∀ line ∈ earlier, (line ++ ['\n']).count '\n' = 1 := by
    intro line member
    have plain := List.count_eq_zero.mpr (single line (List.mem_append_left _ member))
    simp [plain]
  have ones : earlier.map (List.count '\n' ∘ fun line => line ++ ['\n']) =
      earlier.map fun _ => 1 := List.map_congr_left one
  rw [ones]
  simp

theorem lastLineLength_le (text : List Char) : lastLineLength text ≤ text.length := by
  have bound := (List.takeWhile_prefix (· != '\n') (l := text.reverse)).length_le
  rwa [List.length_reverse] at bound

theorem lastLineLength_append (passed second : List Char) :
    lastLineLength (passed ++ ['\n'] ++ second) = lastLineLength second := by
  unfold lastLineLength
  rw [List.reverse_append, List.reverse_append, List.takeWhile_append]
  split
  · rename_i whole
    rw [whole]
    simp
  · rfl

theorem lastLineLength_plain {text : List Char} (single : '\n' ∉ text) :
    lastLineLength text = text.length := by
  have all : text.reverse.takeWhile (· != '\n') = text.reverse := by
    refine List.takeWhile_eq_self_iff.mpr fun char member => ?_
    have other : char ≠ '\n' := fun same => single (List.mem_reverse.mp (same ▸ member))
    exact bne_iff_ne.mpr other
  rw [lastLineLength, all, List.length_reverse]

theorem lastLineLength_joinLines_concat (earlier : List (List Char)) {last : List Char}
    (single : '\n' ∉ last) : lastLineLength (joinLines (earlier ++ [last])) = last.length := by
  rw [joinLines_concat]
  rcases List.eq_nil_or_concat earlier with rfl | ⟨before, line, rfl⟩
  · exact lastLineLength_plain single
  · rw [List.concat_eq_append, List.flatMap_append, List.flatMap_singleton, ← List.append_assoc,
      lastLineLength_append, lastLineLength_plain single]

/-- **The place behind some characters**, told from their lines. -/
theorem place_eq {text last : List Char} {offset : Int} {earlier : List (List Char)}
    (lines : splitLines (before text offset) = earlier ++ [last]) :
    place text offset = ⟨earlier.length + 1, offset - extent earlier + 1⟩ := by
  have single : ∀ line ∈ earlier ++ [last], '\n' ∉ line := fun line member =>
    newline_notMem_splitLines (lines ▸ member)
  have whole := joinLines_splitLines (before text offset)
  rw [lines] at whole
  unfold place
  simp only
  rw [← whole, count_joinLines_concat single, length_joinLines_concat,
    lastLineLength_joinLines_concat earlier (single last (by simp)), Nat.add_sub_cancel]

/-- **The place of an offset on the lines of the text**: its line has as many characters before it
as its column says. -/
theorem exists_line_place {text : List Char} {offset : Int} (forward : 0 ≤ offset)
    (inside : offset ≤ text.length) :
    ∃ earlier line later, splitLines text = earlier ++ line :: later ∧
      ∃ column : Nat, column ≤ line.length ∧ offset = extent earlier + column ∧
        place text offset = ⟨earlier.length + 1, column + 1⟩ := by
  have head : before text offset = text.take offset.toNat := if_pos forward
  obtain ⟨earlier, last, front⟩ :=
    (List.eq_nil_or_concat (splitLines (before text offset))).resolve_left (splitLines_ne_nil _)
  rw [List.concat_eq_append] at front
  obtain ⟨next, later, back⟩ := List.exists_cons_of_ne_nil
    (splitLines_ne_nil (text.drop offset.toNat))
  have size := length_joinLines_concat earlier last
  rw [← front, joinLines_splitLines, head, List.length_take] at size
  have place := place_eq front
  rw [head] at front
  have whole := splitLines_append front back
  rw [List.take_append_drop] at whole
  have reached : offset = extent earlier + last.length := by omega
  refine ⟨earlier, last ++ next, later, whole, last.length, by simp, reached, ?_⟩
  have column : offset - extent earlier = last.length := by omega
  rw [place, column]

/-- **The place of an offset lies in the text.** -/
theorem within_place {text : List Char} {offset : Int} (forward : 0 ≤ offset)
    (inside : offset ≤ text.length) : (place text offset).Within text := by
  obtain ⟨earlier, line, later, lines, column, short, _, same⟩ := exists_line_place forward inside
  rw [same]
  constructor
  · show (1 : Int) ≤ earlier.length + 1
    omega
  · show (earlier.length : Int) + 1 ≤ (splitLines text).length
    rw [lines, List.length_append, List.length_cons]
    omega
  · show (1 : Int) ≤ column + 1
    omega
  · intro other found
    simp only [lines, Int.add_sub_cancel, Int.toNat_natCast, List.getElem?_append_right le_rfl,
      Nat.sub_self, List.getElem?_cons_zero, Option.mem_some] at found
    subst found
    show (column : Int) + 1 ≤ line.length + 1
    omega

/-- **The place of an offset leads back to it.** -/
theorem offsetOf_place {text : List Char} {offset : Int} (forward : 0 ≤ offset)
    (inside : offset ≤ text.length) : offsetOf text (place text offset) = offset := by
  obtain ⟨earlier, line, later, lines, column, _, reached, same⟩ := exists_line_place forward inside
  rw [same, offsetOf, lines]
  simp only [Int.add_sub_cancel, Int.toNat_natCast, List.take_left]
  omega

/-- **The places of a text are ordered as their offsets.** -/
theorem offsetOf_lt {text : List Char} {first second : Place} (here : first.Within text)
    (there : second.Within text) (before : first.Before second) :
    offsetOf text first < offsetOf text second := by
  unfold offsetOf
  rcases before with above | ⟨same, left⟩
  · -- the line of the first place is one of those before the second
    obtain ⟨between, apart⟩ : ∃ count : Nat,
        (second.line - 1).toNat = (first.line - 1).toNat + 1 + count :=
      ⟨(second.line - first.line - 1).toNat, by have := here.line_pos; omega⟩
    have bound : (first.line - 1).toNat < (splitLines text).length := by
      have := here.line_pos
      have := here.line_le
      omega
    have fits := here.column_le _ (List.getElem?_eq_getElem bound)
    have right := there.column_pos
    rw [apart, List.take_add, List.take_succ_eq_append_getElem bound]
    simp only [extent_append, extent]
    omega
  · rw [same]
    omega

theorem Place.eq_or_before (first second : Place) :
    first = second ∨ first.Before second ∨ second.Before first := by
  obtain ⟨line, column⟩ := first
  obtain ⟨otherLine, otherColumn⟩ := second
  unfold Before
  simp only [mk.injEq]
  omega

/-- **Offsets are ordered as their places.** -/
theorem place_before_iff {text : List Char} {first second : Int} (forward : 0 ≤ first)
    (inside : first ≤ text.length) (ahead : 0 ≤ second) (bounded : second ≤ text.length) :
    (place text first).Before (place text second) ↔ first < second := by
  have here := within_place forward inside
  have there := within_place ahead bounded
  have back := offsetOf_place forward inside
  have later := offsetOf_place ahead bounded
  constructor
  · intro before
    have less := offsetOf_lt here there before
    rwa [back, later] at less
  · intro less
    rcases (place text first).eq_or_before (place text second) with same | before | behind
    · rw [same, later] at back
      omega
    · exact before
    · have more := offsetOf_lt there here behind
      omega

end Text

/-! ### Where faults stand -/

/-- **Tokens start within the text.** -/
theorem lex_start_bounds (delimiters : Delimiters) (offset : Int) (text : List Char) :
    ∀ token ∈ (lex delimiters offset text).tokens,
      offset ≤ token.span.start ∧ token.span.start ≤ offset + text.length := by
  induction delimiters, offset, text using lex_induction with
  | nil delimiters offset =>
    rw [lex_nil]
    exact fun token member => by cases member
  | char delimiters offset char rest plain hypothesis =>
    rw [lex_char plain]
    have start : (charToken char offset).span.start = offset := rfl
    refine List.forall_mem_cons.mpr ⟨by omega, fun token member => ?_⟩
    have later := hypothesis token member
    rw [List.length_cons]
    omega
  | tag delimiters offset text token rest next opens read change hypothesis =>
    rw [lex_tag opens read change]
    obtain ⟨source, rfl, start, stop, _⟩ := tagText_of_readTag? opens read
    rw [List.length_append]
    refine List.forall_mem_cons.mpr ⟨by omega, fun other member => ?_⟩
    have later := hypothesis other member
    omega
  | unclosed delimiters offset text opens read =>
    rw [lex_unclosed opens read]
    exact fun token member => by cases member
  | invalid delimiters offset text token rest opens read change =>
    rw [lex_invalid opens read change]
    have start := readTag?_start read
    exact List.forall_mem_singleton.mpr (by omega)

/-- **The first fault stands within the template**, from its start to its end. -/
theorem FirstFault.position_bounds {lexed : Lexed} {size : Nat} {reason : SyntaxFault.Reason}
    {position : Int} (fault : FirstFault lexed size reason position)
    (starts : ∀ token ∈ lexed.tokens, 0 ≤ token.span.start ∧ token.span.start ≤ 0 + size) :
    0 ≤ position ∧ position ≤ size := by
  rw [Int.zero_add] at starts
  have ended : 0 ≤ (size : Int) ∧ (size : Int) ≤ size := ⟨Int.natCast_nonneg size, Int.le_refl _⟩
  cases fault with
  | misfit misfit =>
    cases misfit with
    | unopened split _ => exact starts (.close _) (by rw [split]; simp)
    | mismatched split _ _ => exact starts (.close _) (by rw [split]; simp)
  | invalidTags split _ _ => exact starts (.delimiters _) (by rw [split]; simp)
  | unclosedTag _ _ => exact ended
  | unclosedSection _ _ => exact ended

/-- **The place of a fault stands for its offset.** The place that is reported for an offset of a
template lies on one of its lines, at most one column behind the last character, and the lines and
columns before it make up the offset; so different offsets have different places, in the same order.
A template that is refused with delimiters that are a pair is refused at one of its offsets, and the
place is that of the offset. -/
theorem parseWith_place (template : String) :
    (∀ (position : Int) (reason : SyntaxFault.Reason), 0 ≤ position → position ≤ template.length →
      let place := (SyntaxFault.locate reason position (some template)).place
      place.Within template.toList ∧ Text.offsetOf template.toList place = position) ∧
    (∀ (first second : Int) (reason other : SyntaxFault.Reason), 0 ≤ first → 0 ≤ second →
      first ≤ template.length → second ≤ template.length →
      let place := (SyntaxFault.locate reason first (some template)).place
      let next := (SyntaxFault.locate other second (some template)).place
      (place = next ↔ first = second) ∧ (place.Before next ↔ first < second)) ∧
    ∀ (tags : Value) (delimiters : Delimiters) (fault : SyntaxFault),
      Delimiters.ofValue? tags = some delimiters → parseWith tags template = .error fault →
      0 ≤ fault.position ∧ fault.position ≤ template.length ∧
        fault = .locate fault.reason fault.position (some template) := by
  rw [← String.length_toList]
  refine ⟨fun position reason forward inside => ?_,
    fun first second reason other forward ahead inside bounded => ⟨⟨fun same => ?_, ?_⟩, ?_⟩,
    fun tags delimiters fault valid failed => ?_⟩
  · exact ⟨Text.within_place forward inside, Text.offsetOf_place forward inside⟩
  · have back := Text.offsetOf_place forward inside
    rwa [show Text.place _ first = Text.place _ second from same,
      Text.offsetOf_place ahead bounded, eq_comm] at back
  · rintro rfl
    rfl
  · exact Text.place_before_iff forward inside ahead bounded
  · rw [parseWith_eq valid] at failed
    obtain ⟨reason, position, first, rfl⟩ := parse_eq_error_iff.mp failed
    rw [← String.length_toList] at first
    obtain ⟨forward, inside⟩ := first.position_bounds (lex_start_bounds _ _ _)
    exact ⟨forward, inside, rfl⟩

/-- A closing tag of another name on the second line. -/
theorem parseWith_place_faulty :
    Delimiters.ofValue? (.text "<| |>") = some .angled ∧
      ∃ fault, parseWith (.text "<| |>") Token.faultyTemplate = .error fault ∧
        fault.position = 8 ∧ fault.place = ⟨2, 7⟩ ∧ fault.position ≤ Token.faultyTemplate.length ∧
        Text.offsetOf Token.faultyTemplate.toList fault.place = fault.position ∧
        (SyntaxFault.locate .unclosedTag 1 (some Token.faultyTemplate)).place.Before
          fault.place := by
  have valid : Delimiters.ofValue? (.text "<| |>") = some .angled := by decide +kernel
  refine ⟨valid, ?_⟩
  obtain ⟨inverted, ordered, refused⟩ := parseWith_place Token.faultyTemplate
  have shown : (match parseWith (.text "<| |>") Token.faultyTemplate with
      | .ok _ => none
      | .error fault => some fault) = some ⟨.unclosedSection "x", 8, ⟨2, 7⟩⟩ := by decide +kernel
  match outcome : parseWith (.text "<| |>") Token.faultyTemplate with
  | .ok tree =>
    rw [outcome] at shown
    cases shown
  | .error fault =>
    rw [outcome] at shown
    cases shown
    obtain ⟨forward, inside, located⟩ := refused _ _ _ valid outcome
    have place := congrArg SyntaxFault.place located
    simp only at inside
    refine ⟨_, rfl, rfl, rfl, inside, ?_, ?_⟩
    · rw [place]
      exact (inverted _ _ forward inside).2
    · rw [place]
      exact (ordered 1 8 _ _ (by omega) forward (by omega) inside).2.mpr (by omega)

end Mustache
