import Mustache.Proofs.RenderingsSideBySide
import Mustache.Proofs.SectionBody

/-!
**The tree of the body of a section.**

The body of a section that is parsed as a template of its own has the tree that it has in its
template, as long as the same lines are stripped in both. That is so where the body holds no line
feed, but a variable or text that is not blank: then it is all kept in either place.

* `exists_line`: a stretch of tokens without a line feed stands on one line.
* `keepFrom_inked`: **where such a stretch has ink, it is kept.**
* `squash_eq_append`, `keepFrom_eq_append`: where the tokens left of a tag come from.
* `Token.Nests.exists_beside`, `Token.Nests.exists_alike`: tokens that are moved have trees that are
  alike.
* `parse_rawBody`: **the main statement.**
-/

namespace Mustache

namespace Token

/-! ### Stretches of a line -/

/-- A stretch of tokens without a line feed stands on one line. -/
theorem exists_line {tokens before inner after : List Token}
    (whole : tokens = before ++ (inner ++ after)) (nonempty : inner ≠ [])
    (unbroken : ∀ token ∈ inner, token.isNewline = false) :
    ∃ above line below left right, lines tokens = above ++ line :: below ∧
      line = left ++ (inner ++ right) ∧ before = above.flatten ++ left := by
  have parts : (lines tokens).flatten = before ++ (inner ++ after) := by
    rw [lines, List.flatten_splitBy, whole]
  have some : inner ++ after ≠ [] := List.append_ne_nil_of_left_ne_nil nonempty after
  -- the line on which the stretch starts
  obtain ⟨above, left, rest, below, split, first, second, here⟩ : ∃ above left rest below,
      lines tokens = above ++ (left ++ rest) :: below ∧ before = above.flatten ++ left ∧
        inner ++ after = rest ++ below.flatten ∧ rest ≠ [] := by
    rcases List.flatten_eq_append_iff.mp parts with
      ⟨above, later, split, first, second⟩ | ⟨above, left, head, rest, below, split, first, second⟩
    · cases later with
      | nil => exact absurd second some
      | cons line below =>
        have member : line ∈ lines tokens := by
          rw [split]
          exact List.mem_append_right _ List.mem_cons_self
        exact ⟨above, [], line, below, split, by rw [List.append_nil, first], second,
          List.ne_nil_of_mem_splitBy member⟩
    · exact ⟨above, left, head :: rest, below, split, first, second, List.cons_ne_nil _ _⟩
  rcases List.append_eq_append_iff.mp second with ⟨right, same, _⟩ | ⟨more, same, further⟩
  · exact ⟨above, _, below, left, right, split, by rw [same], first⟩
  · cases more with
    | nil =>
      rw [List.append_nil] at same
      exact ⟨above, _, below, left, [], split, by rw [same, List.append_nil], first⟩
    | cons token more =>
      -- the line would end with a line feed before the stretch does
      cases below with
      | nil => cases further
      | cons next others =>
        have chain := isChain_lines tokens
        rw [split] at chain
        obtain ⟨filled, newline⟩ :=
          (List.isChain_cons_cons.mp (List.isChain_append.mp chain).2.1).1
        rw [List.getLast_append_of_ne_nil filled here] at newline
        have member : rest.getLast here ∈ inner := by
          rw [same]
          exact List.mem_append_left _ (List.getLast_mem here)
        rw [unbroken _ member] at newline
        cases newline

/-- **A stretch with ink is kept** where it has no line feed. -/
theorem keepFrom_inked {tokens before inner after : List Token}
    (whole : tokens = before ++ (inner ++ after))
    (unbroken : ∀ token ∈ inner, token.isNewline = false)
    (inked : ∃ token ∈ inner, token.isSolid = true) :
    keepFrom (strippedIndexes tokens) before.length inner = inner := by
  obtain ⟨ink, member, solid⟩ := inked
  obtain ⟨above, line, below, left, right, split, rfl, rfl⟩ :=
    exists_line whole (List.ne_nil_of_mem member) unbroken
  have other : ¬ Standalone (left ++ (inner ++ right)) := by
    rw [standalone_iff, List.any_eq_true.mpr ⟨ink, by simp [member], solid⟩]
    simp
  have all : keepFrom (strippedIndexes tokens) (above.flatten ++ left).length inner =
      inner.filter fun _ => true := by
    refine keepFrom_eq_filter fun position token here => ?_
    obtain ⟨inside, _⟩ := List.getElem?_eq_some_iff.mp here
    have there : (left ++ (inner ++ right))[left.length + position]? = some token := by
      rw [List.getElem?_append_right (Nat.le_add_right _ _), Nat.add_sub_cancel_left,
        List.getElem?_append_left inside, here]
    rw [List.length_append, Nat.add_assoc, mem_strippedIndexes split there]
    exact ⟨fun stripped => (other stripped.2).elim, fun never => by cases never⟩
  rw [all, List.filter_true]

/-! ### Tags among what is left -/

/-- **A tag among squashed tokens** stood between the same tokens before. -/
theorem squash_eq_append {tokens left right : List Token} {tag : Token}
    (plain : tag.isText = false) (same : squash tokens = left ++ tag :: right) :
    ∃ before after, tokens = before ++ tag :: after ∧ squash before = left ∧
      squash after = right := by
  induction tokens generalizing left with
  | nil => cases left <;> cases same
  | cons token rest hypothesis =>
    rw [squash_cons] at same
    rcases squashOnto_cases token (squash rest) with
      ⟨kept, apart⟩ | ⟨first, second, more, rfl, begun, joined⟩
    · rw [kept] at same
      cases left with
      | nil =>
        obtain ⟨rfl, rfl⟩ := List.cons.inj same
        exact ⟨[], rest, rfl, rfl, rfl⟩
      | cons head others =>
        obtain ⟨rfl, later⟩ := List.cons.inj same
        change squash rest = others ++ tag :: right at later
        obtain ⟨before, after, rfl, rfl, behind⟩ := hypothesis later
        refine ⟨token :: before, after, rfl, ?_, behind⟩
        rw [squash_cons]
        refine squashOnto_eq_cons fun text next member => apart text next ?_
        rw [later, List.head?_append, Option.mem_def.mp member]
        rfl
    · rw [joined] at same
      cases left with
      | nil =>
        obtain ⟨rfl, _⟩ := List.cons.inj same
        cases plain
      | cons head others =>
        obtain ⟨rfl, later⟩ := List.cons.inj same
        obtain ⟨before, after, rfl, front, behind⟩ :=
          @hypothesis (text second :: others) (by rw [begun, later]; rfl)
        refine ⟨text first :: before, after, rfl, ?_, behind⟩
        rw [squash_cons, front]
        rfl

theorem keepFrom_cons (stripped : List Nat) (place : Nat) (token : Token) (rest : List Token) :
    keepFrom stripped place (token :: rest) =
      if stripped.contains place then keepFrom stripped (place + 1) rest
      else token :: keepFrom stripped (place + 1) rest := by
  unfold keepFrom
  rw [List.zipIdx_cons, List.filter_cons]
  cases stripped.contains place <;> rfl

/-- A token that is left stood between the same tokens before. -/
theorem keepFrom_eq_append {stripped : List Nat} {place : Nat} {tokens left right : List Token}
    {token : Token} (same : keepFrom stripped place tokens = left ++ token :: right) :
    ∃ before after, tokens = before ++ token :: after ∧ keepFrom stripped place before = left ∧
      keepFrom stripped (place + before.length + 1) after = right := by
  induction tokens generalizing place left with
  | nil => cases left <;> cases same
  | cons first rest hypothesis =>
    rw [keepFrom_cons] at same
    split at same
    · rename_i gone
      obtain ⟨before, after, rfl, front, behind⟩ := hypothesis same
      refine ⟨first :: before, after, rfl, ?_, ?_⟩
      · rw [keepFrom_cons, if_pos gone, front]
      · rw [← behind, List.length_cons, Nat.add_assoc place 1, Nat.add_comm 1]
    · rename_i kept
      cases left with
      | nil =>
        obtain ⟨rfl, rfl⟩ := List.cons.inj same
        exact ⟨[], rest, rfl, rfl, rfl⟩
      | cons head others =>
        obtain ⟨rfl, later⟩ := List.cons.inj same
        obtain ⟨before, after, rfl, front, behind⟩ := hypothesis later
        refine ⟨first :: before, after, rfl, ?_, ?_⟩
        · rw [keepFrom_cons, if_neg kept, front]
        · rw [← behind, List.length_cons, Nat.add_assoc place 1, Nat.add_comm 1]

/-! ### Tokens that are moved -/

/-- The raw body of a section in a text; other tokens have none. -/
def rawIn (text : String) : Token → String
  | block _ span _ bodyStop => rawBody text span.stop bodyStop
  | _ => ""

/-- Two tags with the same content and the same raw body, each in a text of its own. -/
def SameTag (text other : String) (token image : Token) : Prop :=
  token.span.value = image.span.value ∧ token.rawIn text = image.rawIn other

/-- A token that stands further on, at the start of a line. -/
def moved (amount : Int) (token : Token) : Token := (token.shift amount).onLine {}

theorem map_squash {change : Token → Token} (move : Span → Span)
    (texts : ∀ span, change (text span) = text (move span))
    (joins : ∀ first second, move (joinSpans first second) = joinSpans (move first) (move second))
    (tags : ∀ token, token.isText = false → (change token).isText = false)
    (tokens : List Token) : (squash tokens).map change = squash (tokens.map change) := by
  induction tokens with
  | nil => rfl
  | cons token rest hypothesis =>
    rw [squash_cons, List.map_cons, squash_cons, ← hypothesis]
    rcases squashOnto_cases token (squash rest) with
      ⟨kept, apart⟩ | ⟨first, second, more, rfl, begun, joined⟩
    · rw [kept, List.map_cons, squashOnto_eq_cons]
      intro text next member
      rw [List.head?_map] at member
      obtain ⟨head, found, rfl⟩ := Option.map_eq_some_iff.mp member
      refine tags head (apart ?_ head found)
      by_contra other
      rw [tags token (Bool.eq_false_iff.mpr other)] at text
      cases text
    · rw [joined, begun, List.map_cons, List.map_cons, texts, texts, texts, joins]
      rfl

theorem map_onLine_squash (tokens : List Token) :
    (squash tokens).map (onLine {}) = squash (tokens.map (onLine {})) :=
  map_squash id (fun _ => rfl) (fun _ _ => rfl)
    (fun token plain => by cases token <;> first | rfl | cases plain) tokens

theorem map_moved_squash (amount : Int) (tokens : List Token) :
    (squash tokens).map (moved amount) = squash (tokens.map (moved amount)) :=
  map_squash (Span.shift amount) (fun _ => rfl) (fun _ _ => rfl)
    (fun token plain => by cases token <;> first | rfl | cases plain) tokens

/-- Lines have nothing to do with the stack of open sections. -/
theorem openAfter_map_onLine (opened : List Span) (tokens : List Token) :
    openAfter opened (tokens.map (onLine {})) = openAfter opened tokens := by
  induction tokens generalizing opened with
  | nil => rfl
  | cons token rest hypothesis =>
    rw [List.map_cons]
    cases token with
    | block inverted span body bodyStop => exact hypothesis (span :: opened)
    | close closing =>
      cases opened with
      | nil => rfl
      | cons innermost outer =>
        show openAfter (innermost :: outer) (close closing :: _) = _
        unfold openAfter
        simp only [hypothesis]
    | _ => exact hypothesis opened

/-- Whether tokens are balanced shows in tokens that are moved. -/
theorem Balanced.of_moved {amount : Int} {tokens others : List Token} (balanced : Balanced tokens)
    (same : others.map (onLine {}) = tokens.map (moved amount)) : Balanced others := by
  have further := (balanced_iff _).mp (balanced.shift amount)
  rw [← openAfter_map_onLine, List.map_map] at further
  rw [balanced_iff, ← openAfter_map_onLine, same]
  exact further

/-- Tokens whose tags stand between two places. -/
def Within (low high : Int) (tokens : List Token) : Prop :=
  ∀ token ∈ tokens, token.isText = false → low ≤ token.span.start ∧
    token.span.start ≤ token.span.stop ∧ token.span.stop ≤ high

/-- A token whose line, if it is a partial tag, is seen in some way. -/
def seenOn (see : HostLine → HostLine) : Token → Token
  | partialTag span host => partialTag span (see host)
  | token => token

/-- Two partial tags on lines that are seen to be the same; other tokens carry no line. -/
def SameLine (see : HostLine → HostLine) : Token → Token → Prop
  | partialTag _ host, partialTag _ line => see host = see line
  | _, _ => True

theorem seenOn_start : seenOn (fun _ => {}) = onLine {} := by
  funext token
  cases token <;> rfl

/-- Tokens that stand further on, whatever is seen of their lines, are the same at the start of a
line. -/
theorem map_onLine_of_seenOn {see : HostLine → HostLine} {amount : Int}
    {tokens others : List Token}
    (same : others.map (seenOn see) = tokens.map fun token => (token.shift amount).seenOn see) :
    others.map (onLine {}) = tokens.map (moved amount) := by
  have forget : ∀ token : Token, (token.seenOn see).onLine {} = token.onLine {} := by
    intro token
    cases token <;> rfl
  have images := congrArg (List.map (onLine {})) same
  simp only [List.map_map, Function.comp_def, forget] at images
  exact images

/-- What is seen of a token that stands further on tells what becomes of it in a tree. -/
theorem sort_of_seenOn {see : HostLine → HostLine} {amount : Int} {token image : Token}
    (same : image.seenOn see = (token.shift amount).seenOn see) :
    image.isSectionMark = token.isSectionMark ∧ image.isSilent = token.isSilent := by
  have kept : ∀ token : Token, (token.seenOn see).isSectionMark = token.isSectionMark ∧
      (token.seenOn see).isSilent = token.isSilent := by
    intro token
    cases token <;> exact ⟨rfl, rfl⟩
  have moved : (token.shift amount).isSectionMark = token.isSectionMark ∧
      (token.shift amount).isSilent = token.isSilent := by
    cases token <;> exact ⟨rfl, rfl⟩
  rw [← (kept image).1, ← (kept image).2, same, (kept _).1, (kept _).2]
  exact moved

/-- **Tokens that stand further on have trees that are alike**, if the raw bodies between two places
are the same further on in another text: their tags have the same contents and raw bodies, and their
partial tags stand on lines that are seen to be the same. -/
theorem Nests.exists_beside {text other : String} {amount low high : Int}
    {see : HostLine → HostLine}
    (bodies : ∀ start stop, low ≤ start → low ≤ stop → stop ≤ high →
      rawBody text start stop = rawBody other (start + amount) (stop + amount))
    {tokens forest others : List Token} (nests : Nests tokens forest)
    (within : Within low high tokens)
    (same : others.map (seenOn see) = tokens.map fun token => (token.shift amount).seenOn see) :
    ∃ images, Nests others images ∧
      AllAlike (fun token image => SameTag text other token image ∧ SameLine see token image)
        forest images := by
  induction nests generalizing others with
  | nil =>
    rw [List.map_eq_nil_iff.mp same]
    exact ⟨[], .nil, .nil⟩
  | @silent token rest forest leaf silent nests hypothesis =>
    obtain ⟨image, later, rfl, here, behind⟩ := List.map_eq_cons_iff.mp same
    obtain ⟨images, alike⟩ :=
      hypothesis (fun other member => within other (List.mem_cons_of_mem _ member)) behind
    obtain ⟨mark, sort⟩ := sort_of_seenOn here
    exact ⟨images, .silent (mark.trans leaf) (sort.trans silent) alike.1, alike.2⟩
  | @leaf token rest forest leaf heard nests hypothesis =>
    obtain ⟨image, later, rfl, here, behind⟩ := List.map_eq_cons_iff.mp same
    obtain ⟨images, nested, alike⟩ :=
      hypothesis (fun other member => within other (List.mem_cons_of_mem _ member)) behind
    obtain ⟨mark, sort⟩ := sort_of_seenOn here
    refine ⟨image :: images, .leaf (mark.trans leaf) (sort.trans heard) nested, .cons ?_ alike⟩
    cases token with
    | text span =>
      cases image <;> cases here
      exact .text rfl
    | interpolation escaped span =>
      cases image <;> cases here
      exact .interpolation ⟨⟨rfl, rfl⟩, trivial⟩
    | partialTag span host =>
      cases image with
      | partialTag place line =>
        obtain ⟨same, lines⟩ := partialTag.inj here
        have content : span.value = place.value := by
          rw [same]
          rfl
        exact .partialTag ⟨⟨content, rfl⟩, lines.symm⟩
      | _ => cases here
    | block _ _ _ _ => cases leaf
    | close _ => cases leaf
    | _ => cases heard
  | @«section» inverted span closing old inner body rest forest bodyStop value balanced _ _ inside
      hypothesis =>
    obtain ⟨image, later, rfl, here, behind⟩ := List.map_eq_cons_iff.mp same
    rw [List.map_append, List.map_cons] at behind
    obtain ⟨between, further, rfl, first, second⟩ := List.map_eq_append_iff.mp behind
    obtain ⟨mark, last, rfl, ended, final⟩ := List.map_eq_cons_iff.mp second
    cases image <;> cases here
    cases mark <;> cases ended
    obtain ⟨parts, nested, alikeParts⟩ := inside (fun other member =>
      within other (List.mem_cons_of_mem _ (List.mem_append_left _ member))) first
    obtain ⟨images, following, alike⟩ := hypothesis (fun other member => within other
      (List.mem_cons_of_mem _ (List.mem_append_right _ (List.mem_cons_of_mem _ member)))) final
    refine ⟨_, .section value (balanced.of_moved (map_onLine_of_seenOn first)) nested following,
      .cons ?_ alike⟩
    obtain ⟨low, forward, _⟩ := within _ List.mem_cons_self rfl
    obtain ⟨behind, onwards, high⟩ := within (close closing)
      (List.mem_cons_of_mem _ (List.mem_append_right _ List.mem_cons_self)) rfl
    exact .block ⟨⟨rfl, bodies span.stop closing.start (Int.le_trans low forward) behind
      (Int.le_trans onwards high)⟩, trivial⟩ alikeParts

/-- **Tokens that are moved have trees that are alike**, whatever their lines are. -/
theorem Nests.exists_alike {text other : String} {amount low high : Int}
    (bodies : ∀ start stop, low ≤ start → low ≤ stop → stop ≤ high →
      rawBody text start stop = rawBody other (start + amount) (stop + amount))
    {tokens forest others : List Token} (nests : Nests tokens forest)
    (within : Within low high tokens)
    (same : others.map (onLine {}) = tokens.map (moved amount)) :
    ∃ images, Nests others images ∧ AllAlike (SameTag text other) forest images := by
  rw [← seenOn_start] at same
  obtain ⟨images, nested, alike⟩ := nests.exists_beside bodies within (by
    rw [same]
    unfold moved
    rw [← seenOn_start])
  exact ⟨images, nested, alike.mono fun _ _ => And.left⟩

/-! ### The body of a section -/

theorem toList_rawBody (text : String) {start stop : Int} (first : 0 ≤ start)
    (second : 0 ≤ stop) :
    (rawBody text start stop).toList = (text.toList.take stop.toNat).drop start.toNat := by
  unfold rawBody placeOf
  simp only [if_neg (Int.not_lt.mpr first), if_neg (Int.not_lt.mpr second), String.toList_ofList]

/-- What stands between two places of a text stands in any stretch around it. -/
theorem rawBody_rawBody (text : String) {low high start stop : Int} (nonnegative : 0 ≤ low)
    (first : low ≤ start) (second : low ≤ stop) (last : stop ≤ high) :
    rawBody text start stop =
      rawBody (rawBody text low high) (start + -low) (stop + -low) := by
  apply String.toList_inj.mp
  rw [toList_rawBody text (by omega) (by omega), toList_rawBody _ (by omega) (by omega),
    toList_rawBody text nonnegative (by omega), List.take_drop, List.drop_drop, List.take_take]
  have upper : min (low.toNat + (stop + -low).toNat) high.toNat = stop.toNat := by omega
  have lower : low.toNat + (start + -low).toNat = start.toNat := by omega
  rw [upper, lower]

theorem mem_of_mem_keepFrom {stripped : List Nat} {place : Nat} {tokens : List Token}
    {token : Token} (member : token ∈ keepFrom stripped place tokens) : token ∈ tokens := by
  obtain ⟨before, after, same⟩ := List.append_of_mem member
  obtain ⟨first, second, rfl, _⟩ := keepFrom_eq_append same
  exact List.mem_append_right _ List.mem_cons_self

/-- Ink among squashed tokens was ink before. -/
theorem exists_solid_of_squash {tokens : List Token}
    (inked : ∃ token ∈ squash tokens, token.isSolid = true) :
    ∃ token ∈ tokens, token.isSolid = true := by
  induction tokens with
  | nil => exact inked
  | cons token rest hypothesis =>
    obtain ⟨ink, member, solid⟩ := inked
    have later : (∃ token ∈ squash rest, token.isSolid = true) →
        ∃ other ∈ token :: rest, other.isSolid = true := fun there => by
      obtain ⟨other, inside, found⟩ := hypothesis there
      exact ⟨other, List.mem_cons_of_mem _ inside, found⟩
    rw [squash_cons] at member
    rcases squashOnto_cases token (squash rest) with
      ⟨kept, _⟩ | ⟨first, second, more, rfl, begun, joined⟩
    · rw [kept] at member
      rcases List.mem_cons.mp member with rfl | inside
      · exact ⟨ink, List.mem_cons_self, solid⟩
      · exact later ⟨ink, inside, solid⟩
    · rw [joined] at member
      rw [begun] at later
      rcases List.mem_cons.mp member with rfl | inside
      · -- the joined text has ink where one of the two has
        by_cases here : (text first).isSolid = true
        · exact ⟨_, List.mem_cons_self, here⟩
        · refine later ⟨text second, List.mem_cons_self, ?_⟩
          simp only [isSolid, isInk, isInterpolation, joinSpans, String.toList_append,
            List.all_append, Bool.or_false, Bool.not_and, Bool.or_eq_true] at solid here ⊢
          exact solid.resolve_left here
      · exact later ⟨ink, List.mem_cons_of_mem _ inside, solid⟩

@[simp] theorem bare_isSolid (token : Token) : token.bare.isSolid = token.isSolid := by
  cases token <;> rfl

@[simp] theorem moved_isSolid (amount : Int) (token : Token) :
    (token.moved amount).isSolid = token.isSolid := by
  cases token <;> rfl

@[simp] theorem moved_isNewline (amount : Int) (token : Token) :
    (token.moved amount).isNewline = token.isNewline := by
  cases token <;> rfl

@[simp] theorem onLine_isSolid (line : HostLine) (token : Token) :
    (token.onLine line).isSolid = token.isSolid := by
  cases token <;> rfl

variable {delimiters : Delimiters} {template : String} {tokens siblings body : List Token}
  {inverted : Bool} {span : Span} {stop : Int}

/-- **A section of a tree among the tokens of its template**: its body is the tree of what is left
of the tokens between its tags. -/
theorem Level.exists_section (read : tokenize delimiters template = .ok tokens)
    (level : Level (arrange (strippedIndexes tokens) tokens) siblings)
    (member : block inverted span body stop ∈ siblings) :
    ∃ before inner closing after,
      tokens = before ++ block inverted span [] openStop :: (inner ++ close closing :: after) ∧
        closing.start = stop ∧
        Balanced (squash (keepFrom (strippedIndexes tokens) (before.length + 1) inner)) ∧
        Nests (squash (keepFrom (strippedIndexes tokens) (before.length + 1) inner)) body := by
  obtain ⟨_, _, closing, _, split, balanced, nests, _, start⟩ :=
    level.section_mem (nests_of_tokenize read) (bare_squash_keep (bare_of_tokenize read)) member
  obtain ⟨_, _, kept, _, behind⟩ := squash_eq_append rfl split
  obtain ⟨_, _, rfl, rfl, _⟩ := squash_eq_append rfl behind
  obtain ⟨before, _, rfl, _, later⟩ := keepFrom_eq_append kept
  obtain ⟨inner, after, rfl, rfl, _⟩ := keepFrom_eq_append later
  rw [Nat.zero_add] at balanced nests
  exact ⟨before, inner, closing, after, rfl, start, balanced, nests⟩

/-- No line ends between the tags of a section if its raw body holds no line feed. -/
theorem unbroken_of_rawBody {before inner after : List Token} {closing : Span}
    (read : tokenize delimiters template = .ok tokens)
    (split : tokens =
      before ++ block inverted span [] openStop :: (inner ++ close closing :: after))
    (unbroken : '\n' ∉ (rawBody template span.stop closing.start).toList) :
    ∀ token ∈ inner, token.isNewline = false := by
  intro token member
  cases token with
  | text piece =>
    by_contra newline
    have value : piece.value = "\n" := by simpa [isNewline] using newline
    have placed := (covers_tokenize read).placed
    have slice := placed.text piece (by simp [split, member])
    rw [split] at placed
    obtain ⟨nonnegative, forward, _⟩ := placed.bounds (block inverted span [] openStop) (by simp)
    obtain ⟨first, second, inside⟩ := placed.between
    obtain ⟨low, high⟩ := inside (text piece) member
    obtain ⟨_, order, _⟩ := placed.bounds (text piece) (by simp [member])
    change 0 ≤ span.start at nonnegative
    change span.start < span.stop at forward
    change span.stop ≤ piece.start at low
    change piece.stop ≤ closing.start at high
    change piece.start < piece.stop at order
    -- the line feed would stand in the raw body
    have here : '\n' ∈ (rawBody template piece.start piece.stop).toList := by
      rw [toList_rawBody template (by omega) (by omega)]
      change _ = (template.toList.take piece.stop.toNat).drop piece.start.toNat at slice
      rw [← slice, value]
      exact List.mem_singleton.mpr rfl
    rw [rawBody_rawBody template (by omega) low (by omega) high,
      toList_rawBody _ (by omega) (by omega)] at here
    exact unbroken (List.mem_of_mem_take (List.mem_of_mem_drop here))
  | _ => rfl

/-- The tags in the body of a section stand between its own. -/
theorem within_of_tokenize {before inner after : List Token} {closing : Span}
    (read : tokenize delimiters template = .ok tokens)
    (split : tokens =
      before ++ block inverted span [] openStop :: (inner ++ close closing :: after)) :
    0 ≤ span.stop ∧ Within span.stop closing.start (squash inner) := by
  have placed := (covers_tokenize read).placed
  rw [split] at placed
  obtain ⟨nonnegative, forward, _⟩ := placed.bounds (block inverted span [] openStop) (by simp)
  obtain ⟨_, _, inside⟩ := placed.between
  refine ⟨Int.le_trans nonnegative (Int.le_of_lt forward), fun token member tag => ?_⟩
  have visible : token ∈ (squash inner).filter fun token => !token.isText :=
    List.mem_filter.mpr ⟨member, by rw [tag]; rfl⟩
  rw [filter_squash] at visible
  have between := (List.mem_filter.mp visible).1
  obtain ⟨_, order, _⟩ := placed.bounds token (by simp [between])
  obtain ⟨low, high⟩ := inside token between
  exact ⟨low, Int.le_of_lt order, high⟩

/-- A tree is the only one of its tokens. -/
theorem Nests.eq {flat forest other : List Token} (nests : Nests flat forest)
    (again : Nests flat other) : forest = other :=
  Option.some.inj ((nest?_eq_some nests).symm.trans (nest?_eq_some again))

end Token

open Token

/-- **The body of a section has its tree as a template of its own**, if the delimiters in force at
the section are those that the template began with, and the body holds no line feed, but a variable
or text that is not blank. The two trees are alike: their tags have the same contents, and their
sections the same raw bodies. -/
theorem parse_rawBody {delimiters : Delimiters} {template : String}
    {tokens siblings body : List Token} {inverted : Bool} {span : Span} {stop : Int}
    (read : tokenize delimiters template = .ok tokens)
    (level : Level (arrange (strippedIndexes tokens) tokens) siblings)
    (member : .block inverted span body stop ∈ siblings)
    (force : ∀ before after, tokens = before ++ .block inverted span [] openStop :: after →
      delimiters.after? before = some delimiters)
    (unbroken : '\n' ∉ (rawBody template span.stop stop).toList)
    (inked : ∃ node ∈ preorder body, node.isSolid = true) :
    ∃ tree, parse delimiters (rawBody template span.stop stop) = .ok tree ∧
      AllAlike (SameTag template (rawBody template span.stop stop)) body tree := by
  obtain ⟨before, inner, closing, after, split, rfl, balanced, nests⟩ :=
    level.exists_section read member
  have whole : tokens = (before ++ [.block inverted span [] openStop]) ++
      (inner ++ .close closing :: after) := by
    rw [split, List.append_assoc]
    rfl
  -- the tokens of the body are all kept in the template
  have lines := unbroken_of_rawBody read split unbroken
  have solid : ∃ token ∈ inner, token.isSolid = true := by
    rw [nests.preorder_eq] at inked
    obtain ⟨_, found, ink⟩ := inked
    obtain ⟨token, visible, rfl⟩ := List.mem_map.mp found
    obtain ⟨other, kept, inside⟩ := exists_solid_of_squash
      ⟨token, (List.mem_filter.mp visible).1, (bare_isSolid token).symm.trans ink⟩
    exact ⟨other, mem_of_mem_keepFrom kept, inside⟩
  have kept := keepFrom_inked whole lines solid
  rw [List.length_append, List.length_singleton] at kept
  rw [kept] at balanced nests
  -- so they are in the template that the body is
  obtain ⟨inForce, bodyTokens, forced, bodyRead, same⟩ := (tokenize_rawBody read split).2 inner
    closing after rfl ((balanced_congr (filter_squash inner)).mp balanced)
  have unchanged : inForce = delimiters := by
    have here := force before _ split
    unfold Delimiters.after? at here forced
    rw [List.foldlM_append, here] at forced
    exact (Option.some.inj forced).symm
  subst unchanged
  have origin : ∀ token ∈ bodyTokens, ∃ other ∈ inner,
      other.moved (-span.stop) = token.onLine {} := fun token member => by
    have image : token.onLine {} ∈ inner.map (moved (-span.stop)) := by
      show _ ∈ inner.map fun token => (token.shift (-span.stop)).onLine {}
      rw [← same]
      exact List.mem_map_of_mem member
    exact List.mem_map.mp image
  have bodyLines : ∀ token ∈ bodyTokens, token.isNewline = false := by
    intro token member
    obtain ⟨other, inside, alike⟩ := origin token member
    rw [← onLine_isNewline {} token, ← alike, moved_isNewline]
    exact lines other inside
  have bodySolid : ∃ token ∈ bodyTokens, token.isSolid = true := by
    obtain ⟨other, inside, ink⟩ := solid
    have image : other.moved (-span.stop) ∈ bodyTokens.map (onLine {}) := by
      rw [same]
      exact List.mem_map_of_mem inside
    obtain ⟨token, member, alike⟩ := List.mem_map.mp image
    refine ⟨token, member, ?_⟩
    rw [← onLine_isSolid {} token, alike, moved_isSolid]
    exact ink
  have bodyKept : keep (strippedIndexes bodyTokens) bodyTokens = bodyTokens :=
    keepFrom_inked (show bodyTokens = [] ++ (bodyTokens ++ []) by simp) bodyLines bodySolid
  have bodyNests := nests_of_tokenize bodyRead
  rw [bodyKept] at bodyNests
  obtain ⟨nonnegative, within⟩ := within_of_tokenize read split
  obtain ⟨images, imageNests, alike⟩ := nests.exists_alike
    (fun start stop first second last => rawBody_rawBody template nonnegative first second last)
    within (by rw [map_onLine_squash, same, map_moved_squash]; rfl)
  rw [imageNests.eq bodyNests] at alike
  exact ⟨_, parse_eq_ok_iff.mpr ⟨bodyTokens, bodyRead, rfl⟩, alike⟩

end Mustache
