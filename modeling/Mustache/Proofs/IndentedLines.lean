import Mustache.Proofs.Lines
import Mustache.Render.Partials

/-!
**Partials are indented line by line.**

An indentation is put before each line of a partial that is not empty, with or without the first
line. As the spaces and tabs of an indentation hold no line feed, the lines of the indented partial
are the indented lines. So indentations add up, and an indentation can be taken away again.

* `splitLines_indentPartial`: the lines of an indented partial.
* `indentLines_indentLines`, `outdentLines_indentLines`: one indentation behind another, and an
  indentation taken away.
* `outdentPartial`: a partial with an indentation taken away from its lines.
* `indentPartial_lineByLine`: **the main statement.**
-/

namespace Mustache

variable {indentation : List Char} {hasNonBlank : Bool}

/-! ### Lines of a partial -/

@[simp] theorem indentLine_nil (indentation : List Char) : indentLine indentation [] = [] := rfl

theorem indentLine_of_ne {line : List Char} (nonempty : line ≠ []) :
    indentLine indentation line = indentation ++ line := by
  rw [indentLine, if_neg (mt List.isEmpty_iff.mp nonempty)]

/-- **A line that is indented**, wherever it stands. -/
theorem getElem?_indentLines (lines : List (List Char)) (index : Nat) :
    (indentLines indentation hasNonBlank lines)[index]? = lines[index]?.map fun line =>
      if index = 0 ∧ hasNonBlank = true then line else indentLine indentation line := by
  cases lines with
  | nil => rfl
  | cons first rest =>
    cases index with
    | zero => simp [indentLines]
    | succ index => simp [indentLines]

theorem length_indentLines (lines : List (List Char)) :
    (indentLines indentation hasNonBlank lines).length = lines.length := by
  cases lines with
  | nil => rfl
  | cons first rest => simp [indentLines]

/-- **One indentation behind another** is both before each line. -/
theorem indentLines_indentLines (outer : List Char) (lines : List (List Char)) :
    indentLines outer hasNonBlank (indentLines indentation hasNonBlank lines) =
      indentLines (outer ++ indentation) hasNonBlank lines := by
  have twice : ∀ line, indentLine outer (indentLine indentation line) =
      indentLine (outer ++ indentation) line := by
    intro line
    by_cases empty : line = []
    · simp [empty]
    · have wide : indentation ++ line ≠ [] := List.append_ne_nil_of_right_ne_nil _ empty
      rw [indentLine_of_ne empty, indentLine_of_ne wide, indentLine_of_ne empty, List.append_assoc]
  apply List.ext_getElem?
  intro index
  simp only [getElem?_indentLines, Option.map_map]
  congr 1
  funext line
  by_cases kept : index = 0 ∧ hasNonBlank = true
  · simp [kept]
  · simp [kept, twice]

/-- Without an indentation the lines stay as they are. -/
theorem indentLines_nil (lines : List (List Char)) : indentLines [] hasNonBlank lines = lines := by
  have same : ∀ line : List Char, indentLine [] line = line := fun line => by simp [indentLine]
  apply List.ext_getElem?
  intro index
  simp [getElem?_indentLines, same]

/-! ### An indentation taken away -/

/-- One line of a partial without the indentation before it. -/
def outdentLine (indentation line : List Char) : List Char :=
  if line.isEmpty then line else line.drop indentation.length

/-- The lines of a partial without the indentation before them; the first line is left as it is
where it was left so before. -/
def outdentLines (indentation : List Char) (hasNonBlank : Bool) :
    List (List Char) → List (List Char)
  | [] => []
  | first :: rest =>
    (if hasNonBlank then first else outdentLine indentation first) ::
      rest.map (outdentLine indentation)

/-- **A partial with an indentation taken away** from its lines. -/
def outdentPartial (text indentation : String) (hasNonBlank : Bool) : String :=
  let lines := Text.splitLines text.toList
  String.ofList
    (Text.joinLines (outdentLines (spacesAndTabs indentation.toList) hasNonBlank lines))

/-- **An indentation can be taken away again.** -/
theorem outdentLines_indentLines (lines : List (List Char)) :
    outdentLines indentation hasNonBlank (indentLines indentation hasNonBlank lines) = lines := by
  have back : ∀ line, outdentLine indentation (indentLine indentation line) = line := by
    intro line
    by_cases empty : line = []
    · simp [empty, outdentLine]
    · have wide : indentation ++ line ≠ [] := List.append_ne_nil_of_right_ne_nil _ empty
      rw [indentLine_of_ne empty, outdentLine, if_neg (mt List.isEmpty_iff.mp wide),
        List.drop_left]
  cases lines with
  | nil => rfl
  | cons first rest =>
    have others : outdentLine indentation ∘ indentLine indentation = id := funext back
    cases hasNonBlank with
    | false => simp [indentLines, outdentLines, others, back]
    | true => simp [indentLines, outdentLines, others]

/-! ### The text of a partial -/

theorem newline_notMem_spacesAndTabs (indentation : List Char) :
    '\n' ∉ spacesAndTabs indentation := by
  intro member
  have kept := (List.mem_filter.mp member).2
  simp at kept

theorem newline_notMem_indentLines {lines : List (List Char)} (margin : '\n' ∉ indentation)
    (single : ∀ line ∈ lines, '\n' ∉ line) :
    ∀ line ∈ indentLines indentation hasNonBlank lines, '\n' ∉ line := by
  intro indented member
  obtain ⟨index, here⟩ := List.mem_iff_getElem?.mp member
  rw [getElem?_indentLines] at here
  obtain ⟨line, found, rfl⟩ := Option.map_eq_some_iff.mp here
  have plain := single line (List.mem_of_getElem? found)
  by_cases empty : line = []
  · simp [empty]
  · rw [indentLine_of_ne empty]
    split
    · exact plain
    · rw [List.mem_append]
      exact not_or_intro margin plain

/-- **The lines of an indented partial** are the indented lines. -/
theorem splitLines_indentPartial (text indentation : String) (hasNonBlank : Bool) :
    Text.splitLines (indentPartial text indentation hasNonBlank).toList =
      indentLines (spacesAndTabs indentation.toList) hasNonBlank
        (Text.splitLines text.toList) := by
  unfold indentPartial
  rw [String.toList_ofList]
  refine Text.splitLines_joinLines ?_ (newline_notMem_indentLines
    (newline_notMem_spacesAndTabs _) fun line member => Text.newline_notMem_splitLines member)
  intro empty
  have size := congrArg List.length empty
  rw [length_indentLines] at size
  exact Text.splitLines_ne_nil _ (List.eq_nil_of_length_eq_zero size)

/-- **A partial is indented line by line.** It keeps its number of lines. An empty line stays empty,
and so does the first line stay as it is where the line of the tag holds text already; before any
other line stand just the spaces and tabs of the indentation, in their order. So one indentation
behind another is both, an indentation without spaces and tabs changes nothing, and a partial comes
back if the indentation is taken away from its lines again. -/
theorem indentPartial_lineByLine (text indentation : String) (hasNonBlank : Bool) :
    let margin := indentation.toList.filter fun char => char == ' ' || char == '\t'
    let lines := Text.splitLines text.toList
    let indented := indentPartial text indentation hasNonBlank
    (Text.splitLines indented.toList).length = lines.length ∧
      (∀ (index : Nat) (line : List Char), lines[index]? = some line →
        (Text.splitLines indented.toList)[index]? = some
          (if line = [] ∨ index = 0 ∧ hasNonBlank = true then line else margin ++ line)) ∧
      (∀ outer, indentPartial indented outer hasNonBlank =
        indentPartial text (outer ++ indentation) hasNonBlank) ∧
      (' ' ∉ indentation.toList → '\t' ∉ indentation.toList → indented = text) ∧
      outdentPartial indented indentation hasNonBlank = text := by
  intro margin lines indented
  have cut : Text.splitLines indented.toList = indentLines margin hasNonBlank lines :=
    splitLines_indentPartial text indentation hasNonBlank
  refine ⟨?_, fun index line here => ?_, fun outer => ?_, fun spaces tabs => ?_, ?_⟩
  · rw [cut, length_indentLines]
  · rw [cut, getElem?_indentLines, here, Option.map_some, Option.some_inj]
    by_cases empty : line = []
    · simp [empty]
    · rw [indentLine_of_ne empty]
      simp [empty]
  · have both : spacesAndTabs (outer ++ indentation).toList =
        spacesAndTabs outer.toList ++ margin := by
      rw [String.toList_append]
      exact List.filter_append _ _
    show String.ofList (Text.joinLines (indentLines _ _ (Text.splitLines indented.toList))) =
      String.ofList (Text.joinLines (indentLines _ _ lines))
    rw [cut, both, indentLines_indentLines]
  · have bare : spacesAndTabs indentation.toList = [] := by
      refine List.filter_eq_nil_iff.mpr fun char member => ?_
      rw [Bool.or_eq_true, beq_iff_eq, beq_iff_eq]
      rintro (rfl | rfl)
      · exact spaces member
      · exact tabs member
    show String.ofList (Text.joinLines (indentLines (spacesAndTabs indentation.toList) _ lines)) = _
    rw [bare, indentLines_nil, Text.joinLines_splitLines, String.ofList_toList]
  · unfold outdentPartial
    show String.ofList (Text.joinLines (outdentLines margin _ _)) = _
    rw [cut, outdentLines_indentLines, Text.joinLines_splitLines, String.ofList_toList]

/-- Two line feeds around and between lines, one of which holds nothing but a blank. -/
def linesText : String := "\na\n\n \nb\n"

theorem indentPartial_lineByLine_blanks :
    let indented := indentPartial linesText "\tx " true
    (Text.splitLines linesText.toList)[3]? = some [' '] ∧
      (Text.splitLines indented.toList)[3]? = some ['\t', ' ', ' '] ∧
      indented = "\n\t a\n\n\t  \n\t b\n" ∧
      ' ' ∉ "x\n".toList ∧ '\t' ∉ "x\n".toList ∧
      indentPartial linesText "x\n" false = linesText := by
  intro indented
  have here : (Text.splitLines linesText.toList)[3]? = some [' '] := by decide +kernel
  have foreign : ' ' ∉ "x\n".toList ∧ '\t' ∉ "x\n".toList := by decide +kernel
  obtain ⟨_, lines, _⟩ := indentPartial_lineByLine linesText "\tx " true
  obtain ⟨_, _, _, unchanged, _⟩ := indentPartial_lineByLine linesText "x\n" false
  exact ⟨here, lines 3 [' '] here, by decide +kernel, foreign.1, foreign.2,
    unchanged foreign.1 foreign.2⟩

end Mustache
