import Mustache.Text.Lines

/-!
**Texts and their lines.**

A text is cut at its line feeds and put together again. The lines of a text are the parts without a
line feed that make it up; a text behind another one goes on with the last line of it.

* `splitOn_eq_iff`: what a text is cut into at a mark.
* `append_mark_inj`: a text is cut at its first mark in one way.
* `line_induction`: induction on a text by its line feeds.
* `joinLines_splitLines`, `splitLines_joinLines`: cutting and putting together undo each other.
* `joinLines_concat`: all lines but the last one end with a line feed.
* `splitLines_append`: the lines of two texts as one.
-/

namespace Mustache.Text

/-! ### Cutting at a mark -/

theorem splitOn_eq (mark : Char) (text : List Char) : splitOn mark text = text.splitOn mark := by
  induction text with
  | nil => rfl
  | cons char rest hypothesis =>
    rw [splitOn, List.splitOn_cons_eq_if_modifyHead, ← hypothesis]
    by_cases same : char = mark
    · rw [if_pos same, if_pos (beq_iff_eq.mpr same)]
    · rw [if_neg same, if_neg (mt beq_iff_eq.mp same)]
      cases cut : splitOn mark rest with
      | nil =>
        rw [hypothesis] at cut
        exact absurd cut (List.splitOn_ne_nil _ _)
      | cons part parts => rfl

theorem splitOn_ne_nil (mark : Char) (text : List Char) : splitOn mark text ≠ [] := by
  rw [splitOn_eq]
  exact List.splitOn_ne_nil _ _

theorem mark_notMem_splitOn {mark : Char} {text part : List Char}
    (member : part ∈ splitOn mark text) : mark ∉ part := by
  induction text generalizing part with
  | nil =>
    rw [splitOn, List.mem_singleton] at member
    rw [member]
    exact List.not_mem_nil
  | cons char rest hypothesis =>
    rw [splitOn] at member
    split at member
    · rcases List.mem_cons.mp member with rfl | later
      · exact List.not_mem_nil
      · exact hypothesis later
    · rename_i other
      split at member
      · rename_i first parts cut
        rw [cut] at hypothesis
        rcases List.mem_cons.mp member with rfl | later
        · intro inside
          rcases List.mem_cons.mp inside with same | inside
          · exact other same.symm
          · exact hypothesis List.mem_cons_self inside
        · exact hypothesis (List.mem_cons_of_mem _ later)
      · rw [List.mem_singleton.mp member, List.mem_singleton]
        exact fun same => other same.symm

/-- **Parts without the mark**, put together with it, are what a text is cut into. -/
theorem splitOn_eq_iff {mark : Char} {text : List Char} {parts : List (List Char)} :
    splitOn mark text = parts ↔
      parts ≠ [] ∧ (∀ part ∈ parts, mark ∉ part) ∧ [mark].intercalate parts = text := by
  constructor
  · rintro rfl
    refine ⟨splitOn_ne_nil _ _, fun part member => mark_notMem_splitOn member, ?_⟩
    rw [splitOn_eq, List.intercalate_splitOn]
  · rintro ⟨some, free, rfl⟩
    rw [splitOn_eq, List.splitOn_intercalate mark free some]

/-- **What stands before the first mark of a text**, and what stands behind it. -/
theorem append_mark_inj {mark : Char} {first second left right : List Char}
    (free : mark ∉ first) (other : mark ∉ second)
    (same : first ++ mark :: left = second ++ mark :: right) : first = second ∧ left = right := by
  have stop : ∀ {part : List Char}, mark ∉ part → ∀ char ∈ part, (char != mark) = true :=
    fun absent char member => bne_iff_ne.mpr fun equal => absent (equal ▸ member)
  have before := congrArg (List.takeWhile (· != mark)) same
  rw [List.takeWhile_append_of_pos (stop free), List.takeWhile_append_of_pos (stop other),
    List.takeWhile_cons_of_neg (by simp), List.takeWhile_cons_of_neg (by simp), List.append_nil,
    List.append_nil] at before
  rw [before] at same
  exact ⟨before, (List.cons.inj (List.append_cancel_left same)).2⟩

/-! ### Line feeds -/

/-- **Induction on a text**: it is empty, or starts with a line feed, or starts with something
else. -/
@[elab_as_elim]
theorem line_induction {motive : List Char → Prop} (nil : motive [])
    (newline : ∀ rest, motive rest → motive ('\n' :: rest))
    (char : ∀ char rest, char ≠ '\n' → motive rest → motive (char :: rest)) (text : List Char) :
    motive text := by
  induction text with
  | nil => exact nil
  | cons first rest hypothesis =>
    by_cases feed : first = '\n'
    · rw [feed]
      exact newline rest hypothesis
    · exact char first rest feed hypothesis

theorem splitLines_newline (rest : List Char) :
    splitLines ('\n' :: rest) = [] :: splitLines rest := by
  unfold splitLines
  rw [splitOn, if_pos rfl]

theorem splitLines_plain {char : Char} (plain : char ≠ '\n') {rest first : List Char}
    {more : List (List Char)} (same : splitLines rest = first :: more) :
    splitLines (char :: rest) = (char :: first) :: more := by
  unfold splitLines at same ⊢
  rw [splitOn, if_neg plain, same]

theorem splitLines_ne_nil (text : List Char) : splitLines text ≠ [] := splitOn_ne_nil _ _

theorem newline_notMem_splitLines {text line : List Char} (member : line ∈ splitLines text) :
    '\n' ∉ line := mark_notMem_splitOn member

/-! ### Lines put together -/

theorem joinLines_cons (first : List Char) {rest : List (List Char)} (nonempty : rest ≠ []) :
    joinLines (first :: rest) = first ++ '\n' :: joinLines rest := by
  obtain ⟨second, more, rfl⟩ := List.exists_cons_of_ne_nil nonempty
  unfold joinLines
  rw [List.intercalate_cons_cons]
  simp

theorem joinLines_append (before first : List Char) (rest : List (List Char)) :
    joinLines ((before ++ first) :: rest) = before ++ joinLines (first :: rest) := by
  by_cases empty : rest = []
  · subst empty
    simp [joinLines]
  · rw [joinLines_cons _ empty, joinLines_cons _ empty, List.append_assoc]

@[simp] theorem joinLines_splitLines (text : List Char) : joinLines (splitLines text) = text :=
  (splitOn_eq_iff.mp rfl).2.2

/-- **Lines without line feeds are those of their text.** -/
theorem splitLines_joinLines {lines : List (List Char)} (nonempty : lines ≠ [])
    (single : ∀ line ∈ lines, '\n' ∉ line) : splitLines (joinLines lines) = lines :=
  splitOn_eq_iff.mpr ⟨nonempty, single, rfl⟩

/-- **All lines but the last one end with a line feed.** -/
theorem joinLines_concat (earlier : List (List Char)) (last : List Char) :
    joinLines (earlier ++ [last]) = earlier.flatMap (fun line => line ++ ['\n']) ++ last := by
  induction earlier with
  | nil => simp [joinLines]
  | cons line rest hypothesis =>
    rw [List.cons_append, joinLines_cons _ (List.append_ne_nil_of_right_ne_nil _ (by simp)),
      hypothesis]
    simp

/-- **The lines of two texts as one**: the second goes on with the last line of the first. -/
theorem splitLines_append {first second last next : List Char} {earlier later : List (List Char)}
    (front : splitLines first = earlier ++ [last]) (back : splitLines second = next :: later) :
    splitLines (first ++ second) = earlier ++ (last ++ next) :: later := by
  have whole : joinLines (earlier ++ (last ++ next) :: later) = first ++ second := by
    rw [← joinLines_splitLines first, ← joinLines_splitLines second, front, back,
      joinLines_concat]
    clear front
    induction earlier with
    | nil => exact joinLines_append last next later
    | cons line rest hypothesis =>
      rw [List.cons_append, joinLines_cons _ (by simp), hypothesis]
      simp
  have before : ∀ line ∈ earlier ++ [last], '\n' ∉ line := fun line member =>
    newline_notMem_splitLines (front ▸ member)
  have behind : ∀ line ∈ next :: later, '\n' ∉ line := fun line member =>
    newline_notMem_splitLines (back ▸ member)
  rw [← whole]
  refine splitLines_joinLines (by simp) fun line member => ?_
  rcases List.mem_append.mp member with inside | inside
  · exact before line (List.mem_append_left _ inside)
  · rcases List.mem_cons.mp inside with rfl | inside
    · rw [List.mem_append]
      exact not_or_intro (before last (by simp)) (behind next (by simp))
    · exact behind line (List.mem_cons_of_mem _ inside)

end Mustache.Text
