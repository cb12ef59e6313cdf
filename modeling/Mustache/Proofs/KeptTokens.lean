import Mustache.Proofs.Squashing
import Mustache.Proofs.StandaloneLines

/-!
**What is left when standalone lines are stripped.**

A standalone line keeps its tags, and any other line keeps everything. Since a standalone line has a
tag, it stands between the texts of the lines around it: adjacent texts that are left were adjacent
before.

* `Token.keptOf`: what is left of a line.
* `keep_strippedIndexes`: what is left of all lines.
* `Covers.placed`, `Placed.keep`: the order and the texts are kept.
-/

namespace Mustache.Token

/-- **What is left of a line**: of a standalone line its tags, of any other line everything. -/
def keptOf (line : List Token) : List Token :=
  if Standalone line then line.filter fun token => !token.isText else line

/-! ### Line by line -/

/-- The tokens that are left, the first of them standing at a place. -/
def keepFrom (stripped : List Nat) (place : Nat) (tokens : List Token) : List Token :=
  ((tokens.zipIdx place).filter fun entry => !stripped.contains entry.2).map Prod.fst

theorem keepFrom_append (stripped : List Nat) (place : Nat) (first second : List Token) :
    keepFrom stripped place (first ++ second) =
      keepFrom stripped place first ++ keepFrom stripped (place + first.length) second := by
  unfold keepFrom
  rw [List.zipIdx_append, List.filter_append, List.map_append]

theorem keepFrom_eq_filter {stripped : List Nat} {place : Nat} {tokens : List Token}
    {left : Token → Bool} (places : ∀ (position : Nat) token, tokens[position]? = some token →
      (place + position ∈ stripped ↔ left token = false)) :
    keepFrom stripped place tokens = tokens.filter left := by
  induction tokens generalizing place with
  | nil => rfl
  | cons token rest hypothesis =>
    have here : stripped.contains place = !left token := by
      have first := places 0 token rfl
      rw [Nat.add_zero] at first
      rw [Bool.eq_iff_iff, List.contains_iff_mem, first, Bool.not_eq_true']
    have later := @hypothesis (place + 1) fun position other found => by
      rw [Nat.add_assoc, Nat.add_comm 1]
      exact places (position + 1) other (by rwa [List.getElem?_cons_succ])
    unfold keepFrom at later ⊢
    rw [List.zipIdx_cons, List.filter_cons, List.filter_cons, here, Bool.not_not, ← later]
    split <;> rfl

/-- **One line** among others. -/
theorem keepFrom_line {tokens line : List Token} {before after : List (List Token)}
    (split : lines tokens = before ++ line :: after) :
    keepFrom (strippedIndexes tokens) before.flatten.length line = keptOf line := by
  have places := fun (position : Nat) token (here : (line)[position]? = some token) =>
    mem_strippedIndexes split here
  unfold keptOf
  by_cases standalone : Standalone line
  · rw [if_pos standalone]
    refine keepFrom_eq_filter fun position token here => ?_
    rw [places position token here, Bool.not_eq_false']
    constructor
    · rintro ⟨white, _⟩
      exact (Bool.and_eq_true_iff.mp white).1
    · intro text
      exact ⟨standalone.isWhite (List.mem_of_getElem? here) text, standalone⟩
  · rw [if_neg standalone]
    have all : keepFrom (strippedIndexes tokens) before.flatten.length line =
        line.filter fun _ => true := keepFrom_eq_filter fun position token here => by
      rw [places position token here]
      exact ⟨fun stripped => (standalone stripped.2).elim, fun never => by cases never⟩
    rw [all, List.filter_true]

/-- **What is left of all lines.** -/
theorem keep_strippedIndexes (tokens : List Token) :
    keep (strippedIndexes tokens) tokens = (lines tokens).flatMap keptOf := by
  suffices rest : ∀ after before, lines tokens = before ++ after →
      keepFrom (strippedIndexes tokens) before.flatten.length after.flatten =
        after.flatMap keptOf by
    have whole := rest (lines tokens) [] rfl
    rwa [lines, List.flatten_splitBy] at whole
  intro after
  induction after with
  | nil => exact fun _ _ => rfl
  | cons line rest hypothesis =>
    intro before split
    have later := hypothesis (before ++ [line]) (by rw [split, List.append_assoc]; rfl)
    rw [List.flatten_append, List.length_append, List.flatten_singleton] at later
    rw [List.flatten_cons, keepFrom_append, keepFrom_line split, later, List.flatMap_cons]

/-! ### The order of the template -/

/-- Tokens that account for a template are in its order. -/
theorem Covers.placed {delimiters : Delimiters} {template : List Char} {tokens : List Token}
    (covers : Covers delimiters 0 template tokens) : Placed template tokens where
  ordered := covers.pairwise
  touching := covers.isChain.imp fun _ _ touch _ => touch
  bounds := fun token member => by
    have bounds := covers.bounds token member
    rwa [Int.zero_add] at bounds
  text := by
    intro span member
    obtain ⟨before, after, rfl⟩ := List.append_of_mem member
    obtain ⟨_, char, _, value, _, slice, _⟩ := covers.at_text
    rw [value, String.toList_singleton, slice]

theorem keep_sublist (stripped : List Nat) (tokens : List Token) :
    (keep stripped tokens).Sublist tokens := by
  have part := (List.filter_sublist (l := tokens.zipIdx)
    (p := fun entry => !stripped.contains entry.2)).map Prod.fst
  rwa [List.zipIdx_map_fst] at part

/-- **Nothing is stripped** if no line is standalone. -/
theorem keep_of_not_standalone {tokens : List Token}
    (solid : ∀ line ∈ lines tokens, ¬ Standalone line) :
    keep (strippedIndexes tokens) tokens = tokens := by
  have whole : (lines tokens).flatMap keptOf = (lines tokens).flatMap id :=
    List.flatMap_congr fun line member => if_neg (solid line member)
  rw [keep_strippedIndexes, whole, List.flatMap_id]
  exact List.flatten_splitBy _ _

theorem keptOf_ne_nil {line : List Token} (nonempty : line ≠ []) : keptOf line ≠ [] := by
  unfold keptOf
  split
  · rename_i standalone
    obtain ⟨token, member, tag⟩ := standalone.tag
    exact List.ne_nil_of_mem (List.mem_filter.mpr ⟨member, by rw [tag]; rfl⟩)
  · exact nonempty

/-- A text that is left stands on a line that is left as it is. -/
theorem keptOf_eq {line : List Token} {token : Token} (member : token ∈ keptOf line)
    (text : token.isText = true) : keptOf line = line := by
  unfold keptOf at member ⊢
  split at member
  · have tag := (List.mem_filter.mp member).2
    rw [text] at tag
    cases tag
  · rename_i other
    rw [if_neg other]

/-- **Adjacent texts that are left touch**, as a standalone line leaves a tag between others. -/
theorem touching_keep {tokens : List Token} (touching : tokens.IsChain fun first second =>
      bothTexts first second = true → second.span.start = first.span.stop) :
    (keep (strippedIndexes tokens) tokens).IsChain fun first second =>
      bothTexts first second = true → second.span.start = first.span.stop := by
  have nonempty : ∀ line ∈ lines tokens, line ≠ [] := fun line member =>
    List.ne_nil_of_mem_splitBy member
  have whole := touching
  rw [← List.flatten_splitBy (fun token _ => !token.isNewline) tokens,
    List.isChain_flatten (List.nil_notMem_splitBy _ _)] at whole
  obtain ⟨within, between⟩ := whole
  rw [keep_strippedIndexes, List.flatMap_def, List.isChain_flatten fun member => by
    obtain ⟨line, inside, empty⟩ := List.mem_map.mp member
    exact keptOf_ne_nil (nonempty line inside) empty]
  constructor
  · intro left member
    obtain ⟨line, inside, rfl⟩ := List.mem_map.mp member
    by_cases standalone : Standalone line
    · have tags : ∀ token ∈ keptOf line, token.isText = false := by
        intro token kept
        unfold keptOf at kept
        rw [if_pos standalone] at kept
        simpa using (List.mem_filter.mp kept).2
      refine (List.pairwise_of_forall_mem_list fun first left second _ texts => ?_).isChain
      rw [bothTexts, tags first left] at texts
      cases texts
    · unfold keptOf
      rw [if_neg standalone]
      exact within line inside
  · -- texts that meet across two lines stand on lines that are left whole
    rw [List.isChain_map]
    refine between.imp fun line next touch last final first head texts => ?_
    obtain ⟨left, right⟩ := Bool.and_eq_true_iff.mp texts
    rw [keptOf_eq (List.mem_of_mem_getLast? final) left] at final
    rw [keptOf_eq (List.mem_of_mem_head? head) right] at head
    exact touch last final first head texts

/-- **The order and the texts are kept** when standalone lines are stripped. -/
theorem Placed.keep {template : List Char} {tokens : List Token}
    (placed : Placed template tokens) :
    Placed template (keep (strippedIndexes tokens) tokens) where
  ordered := placed.ordered.sublist (keep_sublist _ _)
  touching := touching_keep placed.touching
  bounds := fun token member => placed.bounds token ((keep_sublist _ _).mem member)
  text := fun span member => placed.text span ((keep_sublist _ _).mem member)

/-- All tags are left. -/
theorem filter_keep (tokens : List Token) :
    (keep (strippedIndexes tokens) tokens).filter (fun token => !token.isText) =
      tokens.filter fun token => !token.isText := by
  have line : ∀ line : List Token, (keptOf line).filter (fun token => !token.isText) =
      line.filter fun token => !token.isText := by
    intro line
    unfold keptOf
    split
    · rw [List.filter_filter]
      simp only [Bool.and_self]
    · rfl
  rw [keep_strippedIndexes, List.filter_flatMap]
  simp only [line]
  rw [List.flatMap_def, ← List.filter_flatten, lines, List.flatten_splitBy]

end Mustache.Token
