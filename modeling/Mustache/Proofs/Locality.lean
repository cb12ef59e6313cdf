import Mustache.Proofs.Coverage

/-!
**Lexing is local.**

A search for a closing delimiter runs through all that is left of a text, and blanks are passed over
greedily. Even so a tag is read from its own characters: what follows it may be replaced, provided
that its closing delimiter is still found behind the same blanks. So a text can be cut between two
tokens, and lexed in two parts; and two texts can be lexed as one if the first ends with a blank,
which no delimiter contains.

* `hits_closing_following`, `scanUntil_following`: a search does not look past the first match.
* `readTag?_following`: one tag with something else behind it.
* `lex_split`: **a text cut between two tokens.**
* `Delimiters.Unbroken`, `lex_append`: **a text with more behind it.**
-/

namespace Mustache

open Lexer

/-! ### Searches -/

namespace Text

theorem InkFirst.following {kept rest : List Char} (ink : InkFirst (kept ++ rest))
    (nonempty : kept ≠ []) (following : List Char) : InkFirst (kept ++ following) := by
  cases kept with
  | nil => exact (nonempty rfl).elim
  | cons char more => exact ink

end Text

namespace Pattern

variable {content gap run text rest : List Char}

/-- Where a closing pattern matches before a place where its content stands does not depend on what
follows that place. -/
theorem hits_closing_following {part : List Char} (first second : List Char)
    (hit : (closing content).hits (part ++ (gap ++ (content ++ first))) = true) :
    (closing content).hits (part ++ (gap ++ (content ++ second))) = true := by
  obtain ⟨blanks, behind, same, white⟩ := hits_closing.mp hit
  rw [hits_closing]
  by_cases short : blanks.length ≤ (part ++ gap).length
  · -- the match ends where the content does, or before
    have begins : blanks ++ content <+: part ++ (gap ++ (content ++ first)) :=
      ⟨behind, by rw [same, List.append_assoc]⟩
    have here : part ++ gap ++ content <+: part ++ (gap ++ (content ++ first)) :=
      ⟨first, by simp only [List.append_assoc]⟩
    obtain ⟨more, whole⟩ := List.prefix_of_prefix_length_le begins here (by
      rw [List.length_append, List.length_append]
      omega)
    refine ⟨blanks, more ++ second, ?_, white⟩
    calc part ++ (gap ++ (content ++ second))
        = part ++ gap ++ content ++ second := by simp only [List.append_assoc]
      _ = blanks ++ (content ++ (more ++ second)) := by
        rw [← whole]
        simp only [List.append_assoc]
  · -- everything before the content is blank
    have begins : part ++ gap <+: part ++ (gap ++ (content ++ first)) :=
      ⟨content ++ first, by simp only [List.append_assoc]⟩
    have long : blanks <+: part ++ (gap ++ (content ++ first)) := ⟨content ++ behind, same.symm⟩
    obtain ⟨more, rfl⟩ := List.prefix_of_prefix_length_le begins long (by omega)
    refine ⟨part ++ gap, second, (List.append_assoc _ _ _).symm, fun char member => ?_⟩
    exact white char (List.mem_append_left _ member)

theorem Misses.following (misses : (closing content).Misses run (gap ++ (content ++ rest)))
    (following : List Char) :
    (closing content).Misses run (gap ++ (content ++ following)) := by
  intro part suffix some
  rw [Bool.eq_false_iff]
  intro hit
  have before := hits_closing_following following rest hit
  rw [misses part suffix some] at before
  cases before

/-- **A search does not look past the first match.** -/
theorem scanUntil_following
    (search : (closing content).scanUntil text = (run, gap ++ (content ++ rest)))
    (blank : Text.Blank gap) (following : List Char) :
    (closing content).scanUntil (run ++ (gap ++ (content ++ following))) =
      (run, gap ++ (content ++ following)) := by
  obtain ⟨misses, _⟩ := scanUntil_spec (closing content) text
  rw [search] at misses
  exact scanUntil_miss_hit (misses.following following)
    (hits_closing.mpr ⟨gap, following, rfl, blank⟩)

/-- Of the numbers of blanks that a content stands behind, the largest is found. -/
theorem blanksBefore?_max {blanks : List Char} {count : Nat}
    (found : blanksBefore? content text = some count) (same : text = blanks ++ (content ++ rest))
    (blank : Text.Blank blanks) : blanks.length ≤ count := by
  induction text generalizing blanks count with
  | nil =>
    rw [(List.append_eq_nil_iff.mp same.symm).1]
    exact Nat.zero_le _
  | cons char behind hypothesis =>
    cases blanks with
    | nil => exact Nat.zero_le _
    | cons other more =>
      obtain rfl : char = other := (List.cons.inj same).1
      have later : behind = more ++ (content ++ rest) := (List.cons.inj same).2
      have white : Text.isBlank char = true := blank char List.mem_cons_self
      have left : Text.Blank more := fun other member =>
        blank other (List.mem_cons_of_mem _ member)
      obtain ⟨size, larger⟩ :
          ∃ size, blanksBefore? content (more ++ (content ++ rest)) = some size :=
        Option.isSome_iff_exists.mp (blanksBefore?_isSome rest left)
      rw [← later] at larger
      have bound := hypothesis larger later left
      rw [blanksBefore?, if_pos white, larger] at found
      cases found
      rw [List.length_cons]
      omega

/-- A content that is found behind blanks is found there when less text follows. -/
theorem blanksBefore?_truncate {following more : List Char} (blank : Text.Blank gap)
    (found : blanksBefore? content (gap ++ (content ++ (following ++ more))) = some gap.length) :
    blanksBefore? content (gap ++ (content ++ following)) = some gap.length := by
  obtain ⟨count, shorter⟩ :
      ∃ count, blanksBefore? content (gap ++ (content ++ following)) = some count :=
    Option.isSome_iff_exists.mp (blanksBefore?_isSome following blank)
  have least := blanksBefore?_max shorter rfl blank
  obtain ⟨blanks, behind, same, white, rfl⟩ := blanksBefore?_spec shorter
  have whole : gap ++ (content ++ (following ++ more)) =
      blanks ++ (content ++ (behind ++ more)) := by
    calc gap ++ (content ++ (following ++ more))
        = gap ++ (content ++ following) ++ more := by simp only [List.append_assoc]
      _ = blanks ++ (content ++ (behind ++ more)) := by
        rw [same]
        simp only [List.append_assoc]
  have most := blanksBefore?_max found whole white
  rw [shorter, Nat.le_antisymm most least]

end Pattern

/-! ### One tag -/

variable {delimiters : Delimiters} {offset : Int}

theorem readSigil_cons (char : Char) (rest : List Char) :
    readSigil (char :: rest) =
      if char ∈ Pattern.sigils then (some char, rest) else (none, char :: rest) := by
  by_cases member : char ∈ Pattern.sigils
  · rw [if_pos member, readSigil_mem member]
  · rw [if_neg member]
    refine readSigil_none fun other same => ?_
    cases same
    exact member

/-- The sigil of a tag is told from its first character. -/
theorem readSigil_following {sigil : Option Char} {kept rest : List Char}
    (sort : readSigil (sigil.toList ++ kept ++ rest) = (sigil, kept ++ rest))
    (nonempty : kept ≠ []) (following : List Char) :
    readSigil (sigil.toList ++ kept ++ following) = (sigil, kept ++ following) := by
  cases sigil with
  | none =>
    obtain ⟨char, more, rfl⟩ := List.exists_cons_of_ne_nil nonempty
    change readSigil (char :: (more ++ rest)) = _ at sort
    change readSigil (char :: (more ++ following)) = _
    rw [readSigil_cons] at sort ⊢
    by_cases member : char ∈ Pattern.sigils
    · rw [if_pos member] at sort
      cases sort
    · rw [if_neg member]
      rfl
  | some char =>
    change readSigil (char :: (kept ++ rest)) = _ at sort
    change readSigil (char :: (kept ++ following)) = _
    rw [readSigil_cons] at sort ⊢
    by_cases member : char ∈ Pattern.sigils
    · rw [if_pos member]
    · rw [if_neg member] at sort
      cases sort

theorem readContent_plain {sigil : Option Char} (notBrace : sigil ≠ some '\x7b')
    (notEquals : sigil ≠ some '=') (text : List Char) :
    readContent delimiters sigil text = delimiters.closingPattern.scanUntil text := by
  unfold readContent
  split
  · exact (notEquals rfl).elim
  · exact (notBrace rfl).elim
  · rfl

/-! Content is read in three ways, each from the characters up to the closing delimiter. -/

section Contents

variable {sigil : Option Char} {text content gap rest : List Char}

theorem readContent_following_braced (ink : Text.InkFirst text)
    (read : readContent delimiters (some '\x7b') text =
      (content, gap ++ (delimiters.closing.toList ++ rest))) :
    ∃ kept, kept ≠ [] ∧ text = kept ++ rest ∧ ∀ following,
      readContent delimiters (some '\x7b') (kept ++ following) =
        (content, gap ++ (delimiters.closing.toList ++ following)) := by
  have ne : (delimiters.closingBracePattern.scanUntil text).2 ≠ [] := by
    intro empty
    have left := congrArg Prod.snd read
    simp [readContent, empty, Pattern.scan, Pattern.scanUntil, delimiters.closing_toList_ne] at left
  obtain ⟨other, between, behind, whole, search, _, _, white, _⟩ := content_spec ne ink
  obtain ⟨rfl, left⟩ := Prod.mk.inj ((readContent_braced search white).symm.trans read)
  -- the delimiter begins at the brace and once more behind the blanks, and may overlap itself
  have begins : delimiters.closing.toList <+: gap ++ (delimiters.closing.toList ++ rest) :=
    ⟨behind, left⟩
  have here : gap ++ delimiters.closing.toList <+: gap ++ (delimiters.closing.toList ++ rest) :=
    ⟨rest, List.append_assoc _ _ _⟩
  obtain ⟨more, same⟩ := List.prefix_of_prefix_length_le begins here (by
    rw [List.length_append]
    omega)
  rw [← List.append_assoc, ← same, List.append_assoc] at left
  obtain rfl := List.append_cancel_left left
  refine ⟨other ++ (between ++ ('\x7d' :: (delimiters.closing.toList ++ more))), by simp, ?_, ?_⟩
  · rw [whole]
    simp only [List.append_assoc, List.cons_append]
  · intro following
    have again := Pattern.scanUntil_following search white (more ++ following)
    rw [← List.append_assoc gap, ← same]
    simp only [List.append_assoc, List.cons_append] at again ⊢
    exact readContent_braced again white

theorem readContent_following_change (ink : Text.InkFirst text) (blank : Text.Blank gap)
    (read : readContent delimiters (some '=') text =
      (content, gap ++ (delimiters.closing.toList ++ rest))) :
    ∃ kept, kept ≠ [] ∧ text = kept ++ rest ∧ ∀ following,
      readContent delimiters (some '=') (kept ++ following) =
        (content, gap ++ (delimiters.closing.toList ++ following)) := by
  have ne : (Pattern.equalsSign.scanUntil text).2 ≠ [] := by
    intro empty
    have left := congrArg Prod.snd read
    simp [readContent, empty, Pattern.scan, Pattern.scanUntil, delimiters.closing_toList_ne] at left
  obtain ⟨other, between, behind, whole, search, _, _, white, _⟩ := content_spec ne ink
  rw [List.singleton_append] at whole search
  obtain ⟨rfl, left⟩ := Prod.mk.inj ((readContent_change search white).symm.trans read)
  -- behind the second sign the closing delimiter is searched for once more
  have split := Pattern.scanUntil_append delimiters.closingPattern behind
  have found : delimiters.closingPattern.scanUntil behind =
      ((delimiters.closingPattern.scanUntil behind).1,
        gap ++ (delimiters.closing.toList ++ rest)) := by rw [← left]
  rw [left] at split
  generalize (delimiters.closingPattern.scanUntil behind).1 = skipped at split found
  subst split
  refine ⟨other ++ (between ++ ('=' :: (skipped ++ (gap ++ delimiters.closing.toList)))),
    by simp, ?_, ?_⟩
  · rw [whole]
    simp only [List.append_assoc, List.cons_append]
  · intro following
    have first := Pattern.scanUntil_following search white
      (skipped ++ (gap ++ (delimiters.closing.toList ++ following)))
    have second := Pattern.scanUntil_following found blank following
    rw [List.singleton_append] at first
    simp only [List.append_assoc, List.cons_append]
    rw [readContent_change first white]
    exact congrArg (Prod.mk other) (congrArg Prod.snd second)

theorem readContent_following_plain (notBrace : sigil ≠ some '\x7b') (notEquals : sigil ≠ some '=')
    (blank : Text.Blank gap)
    (read : readContent delimiters sigil text =
      (content, gap ++ (delimiters.closing.toList ++ rest))) :
    ∃ kept, kept ≠ [] ∧ text = kept ++ rest ∧ ∀ following,
      readContent delimiters sigil (kept ++ following) =
        (content, gap ++ (delimiters.closing.toList ++ following)) := by
  rw [readContent_plain notBrace notEquals] at read
  have whole := Pattern.scanUntil_append delimiters.closingPattern text
  rw [read] at whole
  refine ⟨content ++ (gap ++ delimiters.closing.toList), by simp [delimiters.closing_toList_ne],
    ?_, ?_⟩
  · rw [← whole]
    simp only [List.append_assoc]
  · intro following
    rw [readContent_plain notBrace notEquals]
    simp only [List.append_assoc]
    exact Pattern.scanUntil_following read blank following

/-- **The content of a tag** is read from the characters up to its closing delimiter. -/
theorem readContent_following (ink : Text.InkFirst text) (blank : Text.Blank gap)
    (read : readContent delimiters sigil text =
      (content, gap ++ (delimiters.closing.toList ++ rest))) :
    ∃ kept, kept ≠ [] ∧ text = kept ++ rest ∧ ∀ following,
      readContent delimiters sigil (kept ++ following) =
        (content, gap ++ (delimiters.closing.toList ++ following)) := by
  by_cases brace : sigil = some '\x7b'
  · subst brace
    exact readContent_following_braced ink read
  · by_cases equals : sigil = some '='
    · subst equals
      exact readContent_following_change ink blank read
    · exact readContent_following_plain brace equals blank read

end Contents

/-- **A tag is read from its own characters**: whatever follows it, provided that its closing
delimiter is still found behind the same blanks. -/
theorem readTag?_following {text rest : List Char} {token : Token}
    (opens : delimiters.opening.toList <+: text)
    (read : readTag? delimiters offset text = some (token, rest)) :
    ∃ source gap, text = source ++ rest ∧ delimiters.opening.toList <+: source ∧
      Text.Blank gap ∧
      Pattern.blanksBefore? delimiters.closing.toList (gap ++ (delimiters.closing.toList ++ rest)) =
        some gap.length ∧
      ∀ following, Pattern.blanksBefore? delimiters.closing.toList
          (gap ++ (delimiters.closing.toList ++ following)) = some gap.length →
        readTag? delimiters offset (source ++ following) = some (token, following) := by
  obtain ⟨inside, rfl⟩ := opens
  obtain ⟨sigil, afterSigil, content, gap, sort, found, blank, closes, rfl⟩ :=
    readTag?_parts_of read
  have ink := Text.inkFirst_afterBlanks inside
  have inkContent := Text.inkFirst_afterBlanks afterSigil
  obtain ⟨kept, nonempty, left, framed⟩ := readContent_following inkContent blank found
  obtain ⟨second, white, rfl⟩ : ∃ second, Text.Blank second ∧ afterSigil = second ++ kept ++ rest :=
    ⟨Text.blankRun afterSigil, Text.blank_blankRun afterSigil, by
      rw [List.append_assoc, ← left, Text.blankRun_append_afterBlanks]⟩
  have someKept : second ++ kept ≠ [] := by simp [nonempty]
  have mark : Text.afterBlanks inside = sigil.toList ++ (second ++ kept) ++ rest := by
    rcases readSigil_spec (Text.afterBlanks inside) with ⟨char, more, same, _, signed⟩ | plain
    · obtain ⟨rfl, rfl⟩ := Prod.mk.inj (sort.symm.trans signed)
      exact same
    · obtain ⟨rfl, same⟩ := Prod.mk.inj (sort.symm.trans plain)
      exact same.symm
  -- the tag itself, which `regroup` puts before any text
  obtain ⟨source, fromSource⟩ : ∃ source, source = delimiters.opening.toList ++
      (Text.blankRun inside ++ (sigil.toList ++ (second ++ kept))) := ⟨_, rfl⟩
  have regroup : ∀ last, delimiters.opening.toList ++ (Text.blankRun inside ++
      (sigil.toList ++ (second ++ kept) ++ last)) = source ++ last := fun last => by
    rw [fromSource]
    simp only [List.append_assoc]
  have whole : delimiters.opening.toList ++ inside = source ++ rest := by
    rw [← regroup, ← mark, Text.blankRun_append_afterBlanks]
  rw [mark] at ink sort
  refine ⟨source, gap, whole, ⟨_, fromSource.symm⟩, blank, closes, fun following still => ?_⟩
  have sorted : readSigil (Text.afterBlanks (Text.blankRun inside ++
      (sigil.toList ++ (second ++ kept) ++ following))) = (sigil, second ++ kept ++ following) := by
    rw [Text.afterBlanks_append_ink (Text.blank_blankRun inside)
      (ink.following (by simp [nonempty]) following)]
    exact readSigil_following sort someKept following
  have contained : readContent delimiters sigil (Text.afterBlanks (second ++ kept ++ following)) =
      (content, gap ++ (delimiters.closing.toList ++ following)) := by
    rw [left] at inkContent
    rw [List.append_assoc, Text.afterBlanks_append_ink white (inkContent.following nonempty _)]
    exact framed following
  have size : delimiters.closingPattern.matchLength?
      (gap ++ (delimiters.closing.toList ++ following)) =
        some (gap ++ delimiters.closing.toList).length := by
    unfold Delimiters.closingPattern
    rw [Pattern.matchLength?_closing, still, Option.map_some, List.length_append]
  have again : readTag? delimiters offset (delimiters.opening.toList ++ (Text.blankRun inside ++
      (sigil.toList ++ (second ++ kept) ++ following))) = _ := readTag?_eq sorted contained size
  rw [← List.append_assoc gap, List.drop_left, regroup] at again
  rw [again, whole, List.length_append, List.length_append, Nat.add_sub_cancel,
    Nat.add_sub_cancel]

/-- A tag with less text behind it. -/
theorem readTag?_truncate {text following more : List Char} {token : Token}
    (opens : delimiters.opening.toList <+: text)
    (read : readTag? delimiters offset text = some (token, following ++ more)) :
    ∃ source, text = source ++ (following ++ more) ∧ delimiters.opening.toList <+: source ∧
      readTag? delimiters offset (source ++ following) = some (token, following) := by
  obtain ⟨source, gap, whole, start, blank, closes, still⟩ := readTag?_following opens read
  exact ⟨source, whole, start, still following (Pattern.blanksBefore?_truncate blank closes)⟩

/-! ### A text cut in two -/

theorem lex_split_nil {text : List Char} {after : List Token}
    (sound : (lex delimiters offset text).fault = none)
    (same : (lex delimiters offset text).tokens = after) :
    ∃ passed rest inForce, text = passed ++ rest ∧ delimiters.after? [] = some inForce ∧
      lex delimiters offset passed = ⟨[], none, inForce⟩ ∧
      lex inForce (offset + passed.length) rest =
        ⟨after, none, (lex delimiters offset text).delimiters⟩ := by
  refine ⟨[], text, delimiters, rfl, rfl, lex_nil, ?_⟩
  rw [← sound, ← same, List.length_nil, Int.natCast_zero, Int.add_zero]

/-- **A text cut between two tokens**: each part is lexed on its own, the second one with the
delimiters that are in force behind the first. -/
theorem lex_split {text : List Char} {before after : List Token}
    (sound : (lex delimiters offset text).fault = none)
    (same : (lex delimiters offset text).tokens = before ++ after) :
    ∃ passed rest inForce, text = passed ++ rest ∧ delimiters.after? before = some inForce ∧
      lex delimiters offset passed = ⟨before, none, inForce⟩ ∧
      lex inForce (offset + passed.length) rest =
        ⟨after, none, (lex delimiters offset text).delimiters⟩ := by
  -- along the steps of lexing, as the first of the tokens tells the first step
  induction delimiters, offset, text using lex_induction generalizing before with
  | nil delimiters offset =>
    rw [lex_nil] at same
    obtain ⟨rfl, rfl⟩ := List.append_eq_nil_iff.mp same.symm
    refine ⟨[], [], delimiters, rfl, rfl, lex_nil, ?_⟩
    rw [lex_nil, lex_nil]
  | char delimiters offset char rest plain hypothesis =>
    cases before with
    | nil => exact lex_split_nil sound same
    | cons first before =>
      rw [lex_char plain] at sound same ⊢
      obtain ⟨rfl, later⟩ := List.cons.inj same
      obtain ⟨passed, behind, inForce, rfl, force, left, right⟩ := hypothesis sound later
      have plainer : ¬ delimiters.opening.toList <+: char :: passed := fun begins =>
        plain (begins.trans ⟨behind, rfl⟩)
      have place : offset + ((char :: passed).length : Int) = offset + 1 + passed.length := by
        rw [List.length_cons]
        omega
      refine ⟨char :: passed, behind, inForce, rfl, force, ?_, ?_⟩
      · rw [lex_char plainer, left]
        rfl
      · rw [place, right]
        rfl
  | tag delimiters offset text token rest next opens read change hypothesis =>
    cases before with
    | nil => exact lex_split_nil sound same
    | cons first before =>
      rw [lex_tag opens read change] at sound same ⊢
      obtain ⟨rfl, later⟩ := List.cons.inj same
      obtain ⟨passed, behind, inForce, rfl, force, left, right⟩ := hypothesis sound later
      obtain ⟨_, cut, _, stop, _⟩ := tagText_of_readTag? opens read
      obtain ⟨source, rfl, begins, shorter⟩ := readTag?_truncate opens read
      obtain rfl := List.append_cancel_right cut
      have place : offset + ((source ++ passed).length : Int) =
          token.span.stop + passed.length := by
        rw [stop, List.length_append]
        omega
      refine ⟨source ++ passed, behind, inForce, (List.append_assoc _ _ _).symm, ?_, ?_, ?_⟩
      · unfold Delimiters.after? at force ⊢
        rw [List.foldlM_cons, change]
        exact force
      · rw [lex_tag (begins.trans (List.prefix_append _ _)) shorter change, left]
        rfl
      · rw [place, right]
        rfl
  | unclosed delimiters offset text opens read =>
    rw [lex_unclosed opens read] at sound
    cases sound
  | invalid delimiters offset text token rest opens read change =>
    rw [lex_invalid opens read change] at sound
    cases sound

/-! ### A text with more behind it -/

/-- Delimiters that contain no blank. -/
structure Delimiters.Unbroken (delimiters : Delimiters) : Prop where
  opening : ∀ char ∈ delimiters.opening.toList, Text.isBlank char = false
  closing : ∀ char ∈ delimiters.closing.toList, Text.isBlank char = false

namespace Delimiters

instance (delimiters : Delimiters) : Decidable delimiters.Unbroken :=
  decidable_of_iff ((delimiters.opening.toList.all fun char => !Text.isBlank char) = true ∧
      (delimiters.closing.toList.all fun char => !Text.isBlank char) = true) <| by
    simp only [List.all_eq_true, Bool.not_eq_true']
    exact ⟨fun both => ⟨both.1, both.2⟩, fun unbroken => ⟨unbroken.opening, unbroken.closing⟩⟩

theorem firstWord_unbroken (text : List Char) :
    ∀ char ∈ firstWord text, Text.isBlank char = false := by
  intro char member
  simpa using List.mem_takeWhile_imp member

/-- The delimiters that a delimiter tag names contain no blank. -/
theorem unbroken_of_ofText? {text : String} (named : ofText? text = some delimiters) :
    delimiters.Unbroken := by
  unfold ofText? ofPair? at named
  split at named
  · cases named
    constructor
    · intro char member
      rw [String.toList_ofList] at member
      exact firstWord_unbroken _ char member
    · intro char member
      rw [String.toList_ofList] at member
      exact firstWord_unbroken _ char member
  · cases named

theorem Unbroken.delimitersAfter? {next : Delimiters} {token : Token}
    (unbroken : delimiters.Unbroken)
    (change : Lexer.delimitersAfter? delimiters token = some next) : next.Unbroken := by
  cases token with
  | delimiters span => exact unbroken_of_ofText? change
  | _ =>
    cases change
    exact unbroken

theorem Unbroken.inkFirst_closing (unbroken : delimiters.Unbroken) :
    Text.InkFirst delimiters.closing.toList := fun char member =>
  unbroken.closing char (List.mem_of_mem_head? member)

/-- No opening delimiter begins in blanks. -/
theorem Unbroken.absent_blank (unbroken : delimiters.Unbroken) {run : List Char}
    (blank : Text.Blank run) (following : List Char) :
    Text.Absent delimiters.opening.toList run following :=
  Text.absent_blank (fun char member => unbroken.opening char (List.mem_of_mem_head? member))
    delimiters.opening_toList_ne blank following

/-- No opening delimiter begins in a text that ends with a blank and goes on behind it. -/
theorem Unbroken.not_prefix_append (unbroken : delimiters.Unbroken) {first : List Char}
    (nonempty : first ≠ []) (ended : ∀ char ∈ first.getLast?, Text.isBlank char = true)
    (plain : ¬ delimiters.opening.toList <+: first) (second : List Char) :
    ¬ delimiters.opening.toList <+: first ++ second := by
  intro begins
  by_cases short : delimiters.opening.toList.length ≤ first.length
  · exact plain (List.prefix_of_prefix_length_le begins (List.prefix_append _ _) short)
  · have inside : first <+: delimiters.opening.toList :=
      List.prefix_of_prefix_length_le (List.prefix_append _ _) begins (by omega)
    have white := ended (first.getLast nonempty) (List.getLast_mem_getLast? nonempty)
    have black := unbroken.opening _ (inside.subset (List.getLast_mem nonempty))
    rw [white] at black
    cases black

end Delimiters

/-- **A tag of delimiters without blanks** is read from its own characters, whatever follows it. -/
theorem readTag?_unbroken {text rest : List Char} {token : Token} (unbroken : delimiters.Unbroken)
    (opens : delimiters.opening.toList <+: text)
    (read : readTag? delimiters offset text = some (token, rest)) :
    ∃ source, text = source ++ rest ∧ delimiters.opening.toList <+: source ∧
      token.span.start = offset ∧ token.span.stop = offset + source.length ∧
      token.kind ≠ .text ∧
      ∀ following, readTag? delimiters offset (source ++ following) = some (token, following) := by
  obtain ⟨_, cut, start, stop, written⟩ := tagText_of_readTag? opens read
  obtain ⟨source, gap, rfl, begins, blank, _, still⟩ := readTag?_following opens read
  obtain rfl := List.append_cancel_right cut
  exact ⟨source, rfl, begins, start, stop, written.kind_ne_text, fun following =>
    still following (Pattern.blanksBefore?_ink _ unbroken.inkFirst_closing
      delimiters.closing_toList_ne blank)⟩

/-- A tag with more text behind it. -/
theorem readTag?_extend {text rest : List Char} {token : Token} (unbroken : delimiters.Unbroken)
    (opens : delimiters.opening.toList <+: text)
    (read : readTag? delimiters offset text = some (token, rest)) (more : List Char) :
    readTag? delimiters offset (text ++ more) = some (token, rest ++ more) := by
  obtain ⟨source, rfl, _, _, _, _, still⟩ := readTag?_unbroken unbroken opens read
  rw [List.append_assoc]
  exact still (rest ++ more)

/-- **A text with more behind it**: if it ends with a blank, its tokens stay as they are, and what
is behind it is lexed with the delimiters in force there. -/
theorem lex_append (unbroken : delimiters.Unbroken) {first : List Char}
    (ended : ∀ char ∈ first.getLast?, Text.isBlank char = true)
    (sound : (lex delimiters offset first).fault = none) (second : List Char) :
    lex delimiters offset (first ++ second) =
      (lex (lex delimiters offset first).delimiters (offset + first.length) second).prepend
        (lex delimiters offset first).tokens := by
  induction delimiters, offset, first using lex_induction with
  | nil delimiters offset =>
    rw [lex_nil, List.nil_append, List.length_nil, Int.natCast_zero, Int.add_zero]
    rfl
  | char delimiters offset char rest plain hypothesis =>
    have longer := unbroken.not_prefix_append (List.cons_ne_nil _ _) ended plain second
    have place : offset + ((char :: rest).length : Int) = offset + 1 + rest.length := by
      rw [List.length_cons]
      omega
    rw [lex_char plain] at sound ⊢
    have tail : ∀ other ∈ rest.getLast?, Text.isBlank other = true := by
      intro other member
      have last : other ∈ ([char] ++ rest).getLast? :=
        List.mem_getLast?_append_of_mem_getLast? member
      exact ended other last
    have later := hypothesis unbroken tail sound
    rw [List.cons_append] at longer ⊢
    rw [lex_char longer, later, Lexed.prepend_prepend, place]
    rfl
  | tag delimiters offset text token rest next opens read change hypothesis =>
    obtain ⟨source, rfl, _, stop, _⟩ := tagText_of_readTag? opens read
    have place : offset + ((source ++ rest).length : Int) = token.span.stop + rest.length := by
      rw [stop, List.length_append]
      omega
    rw [lex_tag opens read change] at sound ⊢
    have tail : ∀ char ∈ rest.getLast?, Text.isBlank char = true := fun char member =>
      ended char (List.mem_getLast?_append_of_mem_getLast? member)
    have later := hypothesis (unbroken.delimitersAfter? change) tail sound
    rw [lex_tag (opens.trans (List.prefix_append _ _)) (readTag?_extend unbroken opens read second)
      change, later, Lexed.prepend_prepend, place]
    rfl
  | unclosed delimiters offset text opens read =>
    rw [lex_unclosed opens read] at sound
    cases sound
  | invalid delimiters offset text token rest opens read change =>
    rw [lex_invalid opens read change] at sound
    cases sound

end Mustache
