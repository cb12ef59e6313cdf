import Mustache.Proofs.BodyTree
import Mustache.Proofs.Joining

/-!
**The trees of texts put together.**

Behind a line feed a text is read as if it stood alone. What is left of its lines is left of them
further on as well, so its tree comes about there too; only where a text meets a text are the two
put together.

* `keep_append`, `keep_shift`: what is left of lines one after the other, and further on.
* `Token.Seam`: one list behind another, where the texts that meet are put together.
* `squash_seam`, `Nests.exists_seam`: adjacent texts and trees at a seam.
* `Token.Beside`: a tag beside the same one in another text.
* `rawBody_within`, `exists_tree_within`: **the tree of a text within another one.**
* `parse_joined`: **the tree of two templates put together.**
-/

namespace Mustache

open Lexer

namespace Token

/-! ### What is left -/

/-- What is left of the lines of two lists of tokens, the first of which ends with a line feed. -/
theorem keep_append {first : List Token}
    (newline : ∀ token ∈ first.getLast?, token.isNewline = true) (second : List Token) :
    keep (strippedIndexes (first ++ second)) (first ++ second) =
      keep (strippedIndexes first) first ++ keep (strippedIndexes second) second := by
  rw [keep_strippedIndexes, keep_strippedIndexes, keep_strippedIndexes, lines_append newline,
    List.flatMap_append]

/-- What is left does not depend on where the tokens stand. -/
theorem keep_shift (amount : Int) (tokens : List Token) :
    keep (strippedIndexes (tokens.map (shift amount))) (tokens.map (shift amount)) =
      (keep (strippedIndexes tokens) tokens).map (shift amount) := by
  unfold keep
  rw [strippedIndexes_shift, List.zipIdx_map, List.filter_map, List.map_map, List.map_map]
  rfl

theorem squash_shift (amount : Int) (tokens : List Token) :
    squash (tokens.map (shift amount)) = (squash tokens).map (shift amount) :=
  (map_squash (Span.shift amount) (fun _ => rfl) (fun _ _ => rfl)
    (fun token plain => by cases token <;> first | rfl | cases plain) tokens).symm

/-! ### Seams -/

/-- **One list behind another**: if the first ends with a text and the second starts with one, these
two are put together. -/
inductive Seam : List Token → List Token → List Token → Prop
  | apart {first second : List Token} : Seam first second (first ++ second)
  | joined {before after : List Token} {last next : Span} :
      Seam (before ++ [text last]) (text next :: after)
        (before ++ text (joinSpans last next) :: after)

theorem squashOnto_append (token : Token) {rest : List Token} (nonempty : rest ≠ [])
    (behind : List Token) :
    squashOnto token (rest ++ behind) = squashOnto token rest ++ behind := by
  obtain ⟨next, more, rfl⟩ := List.exists_cons_of_ne_nil nonempty
  exact squashOnto_cons_append token next more behind

/-- A token put before a seam. -/
theorem Seam.squashOnto {first second whole : List Token} (seam : Seam first second whole)
    (token : Token) : Seam (token.squashOnto first) second (token.squashOnto whole) := by
  have single : token.squashOnto [] = [token] := squashOnto_eq_cons fun _ _ member => by
    cases member
  cases seam with
  | apart =>
    by_cases empty : first = []
    · subst empty
      rw [List.nil_append, single]
      rcases squashOnto_cases token second with ⟨same, _⟩ | ⟨left, right, more, rfl, rfl, same⟩
      · rw [same]
        exact @apart [token] second
      · rw [same]
        exact @joined [] more left right
    · rw [squashOnto_append token empty]
      exact apart
  | @joined before after last next =>
    by_cases empty : before = []
    · subst empty
      rw [List.nil_append, List.nil_append]
      rcases squashOnto_cases token [text last] with
        ⟨same, free⟩ | ⟨left, right, more, rfl, begun, same⟩
      · have alone : token.isText = true →
            ∀ other ∈ (text (joinSpans last next) :: after).head?, other.isText = false :=
          fun meets => nomatch free meets (text last) rfl
        rw [same, squashOnto_eq_cons alone]
        exact @joined [token] after last next
      · cases begun
        rw [same]
        show Seam _ _ (text (joinSpans left (joinSpans last next)) :: after)
        rw [joinSpans_assoc]
        exact @joined [] after (joinSpans left last) next
    · rw [squashOnto_append token empty, squashOnto_append token empty]
      exact joined

/-- **Adjacent texts at a seam.** -/
theorem squash_seam (first second : List Token) :
    Seam (squash first) (squash second) (squash (first ++ second)) := by
  induction first with
  | nil => exact @Seam.apart [] (squash second)
  | cons token rest hypothesis =>
    rw [List.cons_append, squash_cons, squash_cons]
    exact hypothesis.squashOnto token

namespace Nests

variable {first second whole forest other : List Token}

theorem append (nests : Nests first forest) (behind : Nests second other) :
    Nests (first ++ second) (forest ++ other) := by
  induction nests with
  | nil => exact behind
  | silent leaf silent _ hypothesis => exact .silent leaf silent hypothesis
  | leaf leaf heard _ hypothesis => exact .leaf leaf heard hypothesis
  | «section» value balanced inner _ _ hypothesis =>
    rw [List.cons_append, List.append_assoc, List.cons_append]
    exact .section value balanced inner hypothesis

/-- Only balanced tokens have a tree. -/
theorem balanced (nests : Nests first forest) : Balanced first := by
  induction nests with
  | nil => exact .nil
  | silent leaf _ _ hypothesis => exact .leaf leaf hypothesis
  | leaf leaf _ _ hypothesis => exact .leaf leaf hypothesis
  | «section» value balanced _ _ _ hypothesis => exact .section value balanced hypothesis

/-- A text at the end of some tokens is at the end of their tree. -/
theorem exists_front {before : List Token} {last : Span}
    (nests : Nests (before ++ [text last]) forest) :
    ∃ front, forest = front ++ [text last] ∧ Nests before front := by
  have alone : Nests [text last] [text last] := .leaf rfl rfl .nil
  have balanced : Balanced before := by
    refine (balanced_congr ?_).mp nests.balanced
    rw [List.filter_append, List.filter_cons_of_neg Bool.false_ne_true, List.filter_nil,
      List.append_nil]
  obtain ⟨front, inner⟩ := balanced.exists_nests
  exact ⟨front, nests.eq (inner.append alone), inner⟩

/-- A text at the start of some tokens is at the start of their tree. -/
theorem exists_back {after : List Token} {next : Span} (nests : Nests (text next :: after) forest) :
    ∃ back, forest = text next :: back ∧ Nests after back := by
  cases nests with
  | silent _ silent _ => cases silent
  | leaf _ _ inner => exact ⟨_, rfl, inner⟩

/-- **The trees at a seam.** -/
theorem exists_seam (nests : Nests first forest) (behind : Nests second other)
    (seam : Seam first second whole) :
    ∃ joined, Nests whole joined ∧ Seam forest other joined := by
  cases seam with
  | apart => exact ⟨_, nests.append behind, .apart⟩
  | joined =>
    obtain ⟨front, rfl, inner⟩ := nests.exists_front
    obtain ⟨back, rfl, later⟩ := behind.exists_back
    exact ⟨_, inner.append (.leaf rfl rfl later), .joined⟩

end Nests

/-! ### A text within another one -/

/-- **A tag beside the same one in another text**: they have the same content, the same raw body and
the same line. -/
def Beside (text other : String) (token image : Token) : Prop :=
  SameTag text other token image ∧ SameLine id token image

end Token

open Token

/-- What stands between two places of a text stands there in any text around it. -/
theorem rawBody_within (before text after : String) {start stop : Int} (first : 0 ≤ start)
    (second : 0 ≤ stop) (last : stop ≤ text.length) :
    rawBody text start stop =
      rawBody (before ++ text ++ after) (start + before.length) (stop + before.length) := by
  have low : (start + before.length).toNat = before.toList.length + start.toNat := by
    rw [String.length_toList]
    omega
  have high : (stop + before.length).toNat = before.toList.length + stop.toNat := by
    rw [String.length_toList]
    omega
  have inside : stop.toNat ≤ text.toList.length := by
    rw [String.length_toList]
    omega
  apply String.toList_inj.mp
  rw [toList_rawBody text first second, toList_rawBody _ (by omega) (by omega),
    String.toList_append, String.toList_append, low, high, List.append_assoc,
    List.take_length_add_append, List.drop_length_add_append,
    List.take_append_of_le_length inside]

variable {delimiters : Delimiters}

/-- The tags that are left of a template stand in it. -/
theorem within_template {template : String} {tokens : List Token}
    (read : tokenize delimiters template = .ok tokens) :
    Within 0 template.length (squash (keep (strippedIndexes tokens) tokens)) := by
  intro token member _
  have placed := (covers_tokenize read).placed.keep.squash
  obtain ⟨first, order, last⟩ := placed.bounds token member
  rw [String.length_toList] at last
  exact ⟨first, Int.le_of_lt order, last⟩

theorem shift_zero (token : Token) : token.shift 0 = token := by
  cases token <;> simp [shift, Span.shift]

/-- **The tree of a text within another one**: further on there, its tokens have a tree like its
own. -/
theorem exists_tree_within {text : String} {tokens tree : List Token}
    (read : tokenize delimiters text = .ok tokens)
    (nests : Nests (squash (keep (strippedIndexes tokens) tokens)) tree) (before after : String) :
    ∃ images, Nests ((squash (keep (strippedIndexes tokens) tokens)).map (shift before.length))
        images ∧
      AllAlike (Beside text (before ++ text ++ after)) tree images := by
  have bodies : ∀ start stop : Int, 0 ≤ start → 0 ≤ stop → stop ≤ text.length →
      rawBody text start stop =
        rawBody (before ++ text ++ after) (start + before.length) (stop + before.length) :=
    fun _ _ first second last => rawBody_within before text after first second last
  exact nests.exists_beside bodies (within_template read) (by rw [List.map_map]; rfl)

/-- The tokens of two templates put together, the first of which ends with a line feed. -/
theorem tokenize_joined {first second : String} {reading : Reading} {tokens : List Token}
    (unbroken : delimiters.Unbroken) (read : Reading.ofTemplate delimiters first = .ok reading)
    (newline : ∃ token ∈ reading.tokens.toList.getLast?, token.isNewline = true)
    (later : tokenize reading.delimiters second = .ok tokens) :
    tokenize delimiters (first ++ second) =
      .ok (reading.tokens.toList ++ tokens.map (shift first.length)) := by
  obtain ⟨_, fresh⟩ := Reading.newline_of_ofTemplate read newline
  obtain ⟨_, balanced, same⟩ := tokenize_eq_ok_iff.mp (Reading.tokenize_eq read)
  obtain ⟨sound, balancedLater, rfl⟩ := tokenize_eq_ok_iff.mp later
  rw [tokenize_eq_ok_iff, Reading.lex_joined unbroken read newline second]
  refine ⟨?_, balanced.append (balancedLater.shift _), ?_⟩
  · rw [Lexed.prepend_fault, Lexed.shift, sound]
    rfl
  · rw [Lexed.prepend_tokens, annotate_append, fresh, ← same, ← annotate_shift]
    rfl

/-- **The tree of two templates put together**, the first of which ends with a line feed and with
the delimiters that it began with: a tree like that of the first, then one like that of the
second. -/
theorem parse_joined {first second : String} {reading : Reading} {later : List Token}
    (unbroken : delimiters.Unbroken) (read : Reading.ofTemplate delimiters first = .ok reading)
    (newline : ∃ token ∈ reading.tokens.toList.getLast?, token.isNewline = true)
    (restored : reading.delimiters = delimiters) (found : parse delimiters second = .ok later) :
    ∃ front early behind whole, parse delimiters first = .ok front ∧
      parse delimiters (first ++ second) = .ok whole ∧ Seam early behind whole ∧
      AllAlike (Beside first (first ++ second)) front early ∧
      AllAlike (Beside second (first ++ second)) later behind := by
  have firstRead := Reading.tokenize_eq read
  obtain ⟨tokens, secondRead, rfl⟩ := parse_eq_ok_iff.mp found
  have joined := tokenize_joined unbroken read newline (by rw [restored, secondRead])
  have ended : ∀ token ∈ reading.tokens.toList.getLast?, token.isNewline = true := by
    obtain ⟨last, member, newline⟩ := newline
    intro token equal
    cases Option.mem_unique member equal
    exact newline
  obtain ⟨early, earlyNests, front⟩ :=
    exists_tree_within firstRead (nests_of_tokenize firstRead) "" second
  obtain ⟨behind, behindNests, back⟩ :=
    exists_tree_within secondRead (nests_of_tokenize secondRead) first ""
  rw [String.empty_append] at front
  rw [String.append_empty] at back
  rw [show ("".length : Int) = 0 from rfl, List.map_id'' shift_zero] at earlyNests
  rw [← squash_shift, ← keep_shift] at behindNests
  have seam := squash_seam (keep (strippedIndexes reading.tokens.toList) reading.tokens.toList)
    (keep (strippedIndexes (tokens.map (shift first.length))) (tokens.map (shift first.length)))
  rw [← keep_append ended] at seam
  obtain ⟨whole, wholeNests, meets⟩ := earlyNests.exists_seam behindNests seam
  refine ⟨_, early, behind, whole, parse_eq_ok_iff.mpr ⟨_, firstRead, rfl⟩,
    parse_eq_ok_iff.mpr ⟨_, joined, ?_⟩, meets, front, back⟩
  exact wholeNests.eq (nests_of_tokenize joined)

end Mustache
