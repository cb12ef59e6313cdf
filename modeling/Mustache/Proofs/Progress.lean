import Mustache.Proofs.Coverage

/-!
**Reading a template makes progress.**

A template is read in turns: each passes over plain text up to the next opening delimiter, and then
over the tag there. A turn that is not the last one leaves at least the two delimiters in force
behind it, whatever pairs have been named before, and no turn makes more tokens than it passes over
characters.

* `Cursor`, `Cursor.turn`: a place in a template, and the turn from there.
* `Cursor.After`: where reading stands after some turns.
* `Advances`, `advances_of_turn`: what **one turn** passes over and makes.
* `Cursor.Within`, `within_of_after`: what holds after **any number of turns**.
* `exists_leave`: reading comes to an end, with the result of `Reading.read`.
* `tokenize_progresses`: **the main statement.**
-/

namespace Mustache

open Lexer

/-- A tag is at least as long as its two delimiters. -/
theorem TagText.length_le {slack : Slack} {delimiters : Delimiters} {kind : Token.Kind}
    {content source : List Char} (tag : TagText slack delimiters kind content source) :
    delimiters.opening.length + delimiters.closing.length ≤ source.length := by
  rw [← String.length_toList, ← String.length_toList]
  cases tag with
  | plain sort gaps content _ _ =>
    simp only [List.length_append]
    omega
  | braced gaps content between _ _ _ =>
    simp only [List.length_append, List.length_cons]
    omega
  | change gaps content skipped between _ _ _ _ =>
    simp only [List.length_append, List.length_cons]
    omega

theorem Lexer.length_textTokens (offset : Int) (run : List Char) :
    (textTokens offset run).length = run.length := by
  induction run generalizing offset with
  | nil => rfl
  | cons char rest hypothesis => rw [textTokens, List.length_cons, List.length_cons, hypothesis]

namespace Reading

theorem size_foldl_push (reading : Reading) (tokens : List Token) :
    (tokens.foldl push reading).tokens.size = reading.tokens.size + tokens.length := by
  induction tokens generalizing reading with
  | nil => rfl
  | cons token rest hypothesis =>
    rw [List.foldl_cons, hypothesis, push, Array.size_push, List.length_cons]
    omega

/-- A tag that makes no fault is one more token. -/
theorem size_pushTag {reading next : Reading} {token : Token}
    (pushed : reading.pushTag token = .ok next) :
    next.tokens.size = reading.tokens.size + 1 := by
  have one : (reading.push token).tokens.size = reading.tokens.size + 1 := Array.size_push _
  rw [← one]
  unfold pushTag at pushed
  simp only at pushed
  split at pushed
  · cases pushed
    rfl
  · split at pushed
    · cases pushed
    · split at pushed
      · cases pushed
        rfl
      · cases pushed
  · split at pushed
    · cases pushed
      rfl
    · cases pushed
  · cases pushed
    rfl

/-! ### Turns -/

/-- A place in a template: what has been read before it, its offset, and the text that remains. -/
structure Cursor where
  reading : Reading
  offset : Int
  remaining : List Char

/-- What a turn comes to: reading ends, or it goes on from another place. -/
inductive Turn where
  | leave (result : Except (SyntaxFault.Reason × Int) Reading)
  | goOn (next : Cursor)

namespace Cursor

/-- The start of a template. -/
def start (delimiters : Delimiters) (template : String) : Cursor :=
  ⟨{ delimiters }, 0, template.toList⟩

/-- The plain text up to the next opening delimiter, and what follows it. -/
def parts (cursor : Cursor) : List Char × List Char :=
  cursor.reading.delimiters.openingPattern.scanUntil cursor.remaining

/-- The tag at the next opening delimiter and what follows it; none if it is not closed. -/
def tag? (cursor : Cursor) : Option (Token × List Char) :=
  readTag? cursor.reading.delimiters (cursor.offset + Int.ofNat cursor.parts.1.length)
    cursor.parts.2

/-- What has been read before the next opening delimiter. -/
def beforeTag (cursor : Cursor) : Reading :=
  (textTokens cursor.offset cursor.parts.1).foldl push cursor.reading

/-- **One turn**: the plain text up to the next opening delimiter, then the tag there. -/
def turn (cursor : Cursor) : Turn :=
  if cursor.parts.2.isEmpty then .leave (.ok cursor.beforeTag)
  else
    match cursor.tag? with
    | none => .leave (.error (.unclosedTag, cursor.offset + Int.ofNat cursor.remaining.length))
    | some (token, rest) =>
      match cursor.beforeTag.pushTag token with
      | .error fault => .leave (.error fault)
      | .ok next => .goOn ⟨next, token.span.stop, rest⟩

/-- The number of tokens there are when a turn ends, also if it ends with a fault. -/
def produced (cursor : Cursor) : Nat :=
  cursor.reading.tokens.size + cursor.parts.1.length + cursor.tag?.toList.length

/-- **Where reading stands after some turns**, none of which was the last one. -/
inductive After (first : Cursor) : Nat → Cursor → Prop
  | start : After first 0 first
  | turn {count : Nat} {cursor next : Cursor} : After first count cursor →
      cursor.turn = .goOn next → After first (count + 1) next

variable {cursor next last : Cursor}

theorem After.of_turn {count : Nat} (goes : cursor.turn = .goOn next)
    (after : next.After count last) : cursor.After (count + 1) last := by
  induction after with
  | start => exact .turn .start goes
  | turn _ further hypothesis => exact .turn hypothesis further

/-- **Reading is taking turns**: behind a turn that is not the last one, what remains is read. -/
theorem read_turn (cursor : Cursor) :
    cursor.reading.read cursor.offset cursor.remaining =
      match cursor.turn with
      | .leave result => result
      | .goOn next => next.reading.read next.offset next.remaining := by
  have step : cursor.reading.read cursor.offset cursor.remaining =
      if cursor.parts.2.isEmpty then .ok cursor.beforeTag
      else
        match cursor.tag? with
        | none => .error (.unclosedTag, cursor.offset + Int.ofNat cursor.remaining.length)
        | some (token, rest) =>
          match cursor.beforeTag.pushTag token with
          | .error fault => .error fault
          | .ok next => next.read token.span.stop rest := read_step cursor.remaining
  rw [step, turn]
  by_cases ended : cursor.parts.2.isEmpty = true
  · rw [if_pos ended, if_pos ended]
  · rw [if_neg ended, if_neg ended]
    cases cursor.tag? with
    | none => rfl
    | some found => cases pushed : cursor.beforeTag.pushTag found.1 <;> simp only [pushed]

/-! ### One turn -/

theorem size_beforeTag (cursor : Cursor) :
    cursor.beforeTag.tokens.size = cursor.reading.tokens.size + cursor.parts.1.length := by
  rw [beforeTag, size_foldl_push, length_textTokens]

/-- A turn that is not the last one, from its parts. -/
theorem exists_of_turn (goes : cursor.turn = .goOn next) :
    ∃ token, cursor.parts.2 ≠ [] ∧ cursor.tag? = some (token, next.remaining) ∧
      cursor.beforeTag.pushTag token = .ok next.reading ∧ token.span.stop = next.offset := by
  unfold turn at goes
  split at goes
  · cases goes
  · rename_i some
    split at goes
    · cases goes
    · rename_i token rest found
      split at goes
      · cases goes
      · rename_i reading pushed
        cases goes
        exact ⟨token, fun empty => some (List.isEmpty_iff.mpr empty), found, pushed, rfl⟩

/-- **What a turn passes over and makes** if it is not the last one: plain text, with one token for
each character, and a tag with one token, at least as long as the delimiters in force. -/
theorem advances_of_turn (goes : cursor.turn = .goOn next) :
    ∃ plain source, cursor.remaining = plain ++ (source ++ next.remaining) ∧
      next.offset = cursor.offset + plain.length + source.length ∧
      cursor.reading.delimiters.opening.length + cursor.reading.delimiters.closing.length ≤
        source.length ∧
      next.reading.tokens.size = cursor.reading.tokens.size + plain.length + 1 := by
  obtain ⟨token, some, found, pushed, stop⟩ := exists_of_turn goes
  have whole : cursor.parts.1 ++ cursor.parts.2 = cursor.remaining :=
    Pattern.scanUntil_append _ cursor.remaining
  obtain ⟨_, atEnd | hits⟩ :=
    Pattern.scanUntil_spec cursor.reading.delimiters.openingPattern cursor.remaining
  · exact absurd atEnd some
  have opens : cursor.reading.delimiters.opening.toList <+: cursor.parts.2 :=
    Pattern.hits_opening.mp hits
  obtain ⟨source, cut, _, ends, tag⟩ := tagText_of_readTag? opens found
  refine ⟨cursor.parts.1, source, ?_, ?_, tag.length_le, ?_⟩
  · rw [← cut, whole]
  · rw [← stop, ends]
    rfl
  · rw [size_pushTag pushed, size_beforeTag]

/-- A turn makes no more tokens than it has characters before it. -/
theorem produced_le (cursor : Cursor) :
    cursor.produced ≤ cursor.reading.tokens.size + cursor.remaining.length := by
  have whole := Pattern.scanUntil_length cursor.reading.delimiters.openingPattern cursor.remaining
  change cursor.parts.1.length + cursor.parts.2.length = cursor.remaining.length at whole
  unfold produced
  cases read : cursor.tag? with
  | none =>
    rw [Option.toList_none, List.length_nil]
    omega
  | some found =>
    have shorter : found.2.length < cursor.parts.2.length := readTag?_length read
    rw [Option.toList_some, List.length_singleton]
    omega

/-! ### Any number of turns -/

/-- **A place in a template that is reached in so many turns**: the text before it is passed, no
turn has passed over nothing, and no token stands for nothing. -/
structure Within (template : String) (count : Nat) (cursor : Cursor) : Prop where
  exists_passed : ∃ passed, template.toList = passed ++ cursor.remaining ∧
    cursor.offset = passed.length
  count_le : count ≤ cursor.offset
  size_le : cursor.reading.tokens.size ≤ cursor.offset

theorem within_start (delimiters : Delimiters) (template : String) :
    Within template 0 (start delimiters template) where
  exists_passed := ⟨[], rfl, rfl⟩
  count_le := Int.le_refl 0
  size_le := Int.le_refl 0

theorem Within.turn {template : String} {count : Nat} (within : Within template count cursor)
    (goes : cursor.turn = .goOn next) : Within template (count + 1) next := by
  obtain ⟨passed, cut, place⟩ := within.exists_passed
  obtain ⟨plain, source, remaining, offset, longer, size⟩ := advances_of_turn goes
  have some : 0 < cursor.reading.delimiters.opening.length := by
    rw [← String.length_toList]
    exact List.length_pos_iff.mpr cursor.reading.delimiters.opening_toList_ne
  have count_le := within.count_le
  have size_le := within.size_le
  refine ⟨⟨passed ++ (plain ++ source), ?_, ?_⟩, ?_, ?_⟩
  · rw [cut, remaining]
    simp only [List.append_assoc]
  · rw [List.length_append, List.length_append]
    omega
  · omega
  · omega

theorem within_of_after {delimiters : Delimiters} {template : String} {count : Nat}
    (after : (start delimiters template).After count cursor) : Within template count cursor := by
  induction after with
  | start => exact within_start delimiters template
  | turn _ goes hypothesis => exact hypothesis.turn goes

/-- The offset of a place is that of the text that remains. -/
theorem Within.place {template : String} {count : Nat} (within : Within template count cursor) :
    cursor.offset + cursor.remaining.length = template.length ∧
      template.toList.drop cursor.offset.toNat = cursor.remaining := by
  obtain ⟨passed, cut, place⟩ := within.exists_passed
  rw [← String.length_toList, place, cut, List.length_append, Int.toNat_natCast, List.drop_left]
  exact ⟨by omega, rfl⟩

/-- **Reading comes to an end** with what it comes to, after some number of turns. -/
theorem exists_leave (cursor : Cursor) :
    ∃ count last result, cursor.After count last ∧ last.turn = .leave result ∧
      cursor.reading.read cursor.offset cursor.remaining = result := by
  have step := cursor.read_turn
  cases turn : cursor.turn with
  | leave result =>
    rw [turn] at step
    exact ⟨0, cursor, result, .start, turn, step⟩
  | goOn next =>
    rw [turn] at step
    have shorter : next.remaining.length < cursor.remaining.length := by
      obtain ⟨token, _, found, _⟩ := exists_of_turn turn
      have behind : next.remaining.length < cursor.parts.2.length := readTag?_length found
      have whole := Pattern.scanUntil_length cursor.reading.delimiters.openingPattern
        cursor.remaining
      change cursor.parts.1.length + cursor.parts.2.length = cursor.remaining.length at whole
      omega
    obtain ⟨count, last, result, after, leaves, read⟩ := exists_leave next
    exact ⟨count + 1, last, result, after.of_turn turn, leaves, step.trans read⟩
termination_by cursor.remaining.length

/-- The tokens of a reading are those of its last turn. -/
theorem size_of_leave {reading : Reading} (leaves : cursor.turn = .leave (.ok reading)) :
    reading.tokens.size ≤ cursor.produced := by
  unfold turn at leaves
  split at leaves
  · cases leaves
    rw [size_beforeTag]
    exact Nat.le_add_right _ _
  · split at leaves
    · cases leaves
    · split at leaves <;> cases leaves

end Cursor

/-- The tokens of a template are those that have been read at its end. -/
theorem exists_read_of_tokenize {delimiters : Delimiters} {template : String} {tokens : List Token}
    (found : tokenize delimiters template = .ok tokens) :
    ∃ reading, read { delimiters } 0 template.toList = .ok reading ∧
      reading.tokens.toList = tokens := by
  unfold tokenize at found
  cases whole : ofTemplate delimiters template with
  | error fault =>
    rw [whole] at found
    cases found
  | ok reading =>
    rw [whole] at found
    refine ⟨reading, ?_, Except.ok.inj found⟩
    have ended := ofTemplate_eq_ok_iff.mp whole
    unfold ofText at ended
    split at ended
    · cases ended
    · rename_i last whole
      rw [whole]
      split at ended <;> cases ended
      rfl

/-- **Reading a template makes progress.** From every place that reading comes to, by any number of
turns and through any changes of the delimiters, the next turn is the last one, or it leads on by at
least the length of the two delimiters in force, and not past the end. So there are no more turns
than characters, beside the last one, and no more tokens than characters, also where reading ends
with a fault; and it does end, with its result. -/
theorem tokenize_progresses (delimiters : Delimiters) (template : String) :
    let first := Cursor.start delimiters template
    (∀ count cursor, first.After count cursor →
        template.toList.drop cursor.offset.toNat = cursor.remaining ∧
        (∀ next, cursor.turn = .goOn next →
          cursor.offset + cursor.reading.delimiters.opening.length +
              cursor.reading.delimiters.closing.length ≤ next.offset ∧
            next.offset ≤ template.length) ∧
        count + 1 ≤ template.length + 1 ∧ cursor.produced ≤ template.length) ∧
      (∃ count cursor result, first.After count cursor ∧ cursor.turn = .leave result ∧
        read { delimiters } 0 template.toList = result) ∧
      ∀ tokens, tokenize delimiters template = .ok tokens → tokens.length ≤ template.length := by
  intro first
  have turns : ∀ count cursor, first.After count cursor →
      cursor.produced ≤ template.length := by
    intro count cursor after
    have within := Cursor.within_of_after after
    have place := within.place.1
    have size := within.size_le
    have produced := cursor.produced_le
    omega
  refine ⟨fun count cursor after => ?_, first.exists_leave, fun tokens tokenized => ?_⟩
  · have within := Cursor.within_of_after after
    obtain ⟨place, here⟩ := within.place
    have count_le := within.count_le
    refine ⟨here, fun next goes => ?_, by omega, turns count cursor after⟩
    obtain ⟨plain, source, _, offset, longer, _⟩ := Cursor.advances_of_turn goes
    have behind := (Cursor.within_of_after (after.turn goes)).place.1
    omega
  · obtain ⟨reading, whole, rfl⟩ := exists_read_of_tokenize tokenized
    obtain ⟨count, last, result, after, leaves, ended⟩ := first.exists_leave
    obtain rfl : result = .ok reading := ended.symm.trans whole
    rw [Array.length_toList]
    exact (Cursor.size_of_leave leaves).trans (turns count last after)

/-- A template that changes the delimiters before its first tag. -/
def changingTemplate : String := "\x7b\x7b=<| |>=\x7d\x7da<|x|>"

/-- The place behind a turn, or the same place if that was the last turn. -/
def Cursor.next (cursor : Cursor) : Cursor :=
  match cursor.turn with
  | .leave _ => cursor
  | .goOn next => next

theorem Cursor.turn_eq_next {cursor : Cursor} (moves : cursor.next.offset ≠ cursor.offset) :
    cursor.turn = .goOn cursor.next := by
  unfold next at moves ⊢
  split
  · rename_i leaves
    rw [leaves] at moves
    exact absurd rfl moves
  · assumption

/-- The second turn is bounded by the delimiters that the first one has put in force. -/
theorem tokenize_progresses_changed :
    let first := Cursor.start .standard changingTemplate
    let second := first.next
    let third := second.next
    first.After 1 second ∧ second.turn = .goOn third ∧
      second.reading.delimiters.opening = "<|" ∧ second.offset = 11 ∧
      second.offset + 2 + 2 ≤ third.offset ∧ third.offset ≤ 17 ∧
      ∃ tokens, tokenize .standard changingTemplate = .ok tokens ∧ tokens.length ≤ 17 := by
  intro first second third
  have firstTurn : first.turn = .goOn second := Cursor.turn_eq_next (by decide +kernel)
  have secondTurn : second.turn = .goOn third := Cursor.turn_eq_next (by decide +kernel)
  have after : first.After 1 second := .turn .start firstTurn
  have opening : second.reading.delimiters.opening = "<|" := by decide +kernel
  have closing : second.reading.delimiters.closing = "|>" := by decide +kernel
  have offset : second.offset = 11 := by decide +kernel
  have readable : (tokenize .standard changingTemplate).toOption.map List.length = some 3 := by
    decide +kernel
  obtain ⟨tokens, found, _⟩ := exists_ok_of_toOption_map readable
  obtain ⟨turns, _, whole⟩ := tokenize_progresses .standard changingTemplate
  obtain ⟨_, goes, _⟩ := turns 1 second after
  obtain ⟨further, inside⟩ := goes third secondTurn
  rw [opening, closing] at further
  exact ⟨after, secondTurn, opening, offset, further, inside, tokens, found, whole tokens found⟩

end Reading

end Mustache
