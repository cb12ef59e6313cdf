import Mustache.Proofs.Lexing

/-!
**The text of a tag.**

A tag is written as an opening delimiter, a sigil, a content and a closing delimiter with any
blanks between them; a variable in one more pair of braces has a closing brace before the closing
delimiter, and a delimiter tag has a second equals sign and further text there.

* `TagSort`, `Gaps`: the sorts of tags without such additions, and their blanks.
* `TagText`: the texts of a tag with a sort and a content.
* `tagText_of_readTag?`: what is read as a tag is the text of that tag.
-/

namespace Mustache

open Lexer

variable {delimiters : Delimiters} {offset : Int}

/-- A run of blanks. -/
abbrev Blanks := { text : List Char // Text.Blank text }

/-- The sorts of tags that hold nothing but a sigil and a content. -/
inductive TagSort where
  | name
  | plainSection
  | invertedSection
  | close
  | partialTag
  | unescaped
  | comment
  deriving DecidableEq, Repr

namespace TagSort

/-- The sigil of a sort; a variable has none. -/
def sigil : TagSort → Option Char
  | name => none
  | plainSection => some '#'
  | invertedSection => some '^'
  | close => some '/'
  | partialTag => some '>'
  | unescaped => some '&'
  | comment => some '!'

/-- The sort of the tokens. -/
def kind : TagSort → Token.Kind
  | name => .name
  | plainSection => .plainSection
  | invertedSection => .invertedSection
  | close => .close
  | partialTag => .partialTag
  | unescaped => .unescaped
  | comment => .comment

theorem readContent_sigil (sort : TagSort) (text : List Char) :
    readContent delimiters sort.sigil text = delimiters.closingPattern.scanUntil text := by
  cases sort <;> rfl

theorem kindOf_sigil (sort : TagSort) : kindOf sort.sigil = sort.kind := by
  cases sort <;> rfl

theorem sigil_mem {sort : TagSort} {char : Char} (same : sort.sigil = some char) :
    char ∈ Pattern.sigils ∧ Text.isBlank char = false := by
  cases sort <;> cases same <;> decide +kernel

end TagSort

/-- The blanks before and after the sigil of a tag, and after its content. -/
structure Gaps where
  beforeSigil : Blanks
  afterSigil : Blanks
  afterContent : Blanks

/-! ### The texts of a tag -/

/-- The blanks that may stand between what ends a content and the closing delimiter. -/
abbrev Slack := Delimiters → List Char → Prop

/-- No blanks at all. -/
def Slack.none : Slack := fun _ blanks => blanks = []

/-- Blanks, but only before a closing delimiter that starts with a blank itself. -/
def Slack.blanks : Slack := fun delimiters blanks =>
  Text.Blank blanks ∧ (Text.InkFirst delimiters.closing.toList → blanks = [])

/-- **The texts of a tag** of a sort and with a content, which neither starts nor ends with a
blank. -/
inductive TagText (slack : Slack) (delimiters : Delimiters) :
    Token.Kind → List Char → List Char → Prop
  /-- A sigil or none, then the content. -/
  | plain (sort : TagSort) (gaps : Gaps) (content : List Char) :
      Text.InkFirst content → Text.InkLast content →
      TagText slack delimiters sort.kind content
        (delimiters.opening.toList ++ (gaps.beforeSigil.val ++ (sort.sigil.toList ++
          (gaps.afterSigil.val ++ (content ++ (gaps.afterContent.val ++
            delimiters.closing.toList))))))
  /-- An opening brace, the content, and a closing brace at the closing delimiter. -/
  | braced (gaps : Gaps) (content between : List Char) :
      Text.InkFirst content → Text.InkLast content → slack delimiters between →
      TagText slack delimiters .unescaped content
        (delimiters.opening.toList ++ (gaps.beforeSigil.val ++ ('\x7b' ::
          (gaps.afterSigil.val ++ (content ++ (gaps.afterContent.val ++ ('\x7d' ::
            (between ++ delimiters.closing.toList))))))))
  /-- An equals sign, the content, a second equals sign, and what stands before the closing
  delimiter comes up next. -/
  | change (gaps : Gaps) (content skipped between : List Char) :
      Text.InkFirst content → Text.InkLast content → slack delimiters between →
      Text.Absent delimiters.closing.toList skipped (between ++ delimiters.closing.toList) →
      TagText slack delimiters .delimiters content
        (delimiters.opening.toList ++ (gaps.beforeSigil.val ++ ('=' ::
          (gaps.afterSigil.val ++ (content ++ (gaps.afterContent.val ++ ('=' ::
            (skipped ++ (between ++ delimiters.closing.toList)))))))))

/-! ### What is read as a tag -/

/-- A content that ends where blanks and its closer begin does not end with a blank itself. -/
theorem inkLast_of_misses {closer content following : List Char}
    (misses : (Pattern.closing closer).Misses content following)
    (hit : (Pattern.closing closer).hits following = true) : Text.InkLast content := by
  intro char member
  rw [Bool.eq_false_iff]
  intro white
  obtain ⟨before, rfl⟩ := List.getLast?_eq_some_iff.mp member
  obtain ⟨blanks, rest, rfl, blank⟩ := Pattern.hits_closing.mp hit
  have missed := misses [char] (List.suffix_append _ _) (List.cons_ne_nil _ _)
  rw [Bool.eq_false_iff, ne_eq, Pattern.hits_closing] at missed
  refine missed ⟨char :: blanks, rest, rfl, fun other inside => ?_⟩
  rcases List.mem_cons.mp inside with rfl | inside
  · exact white
  · exact blank other inside

/-- **Where a content ends**: blanks and its closer come next, and the closer does not begin within
the content. -/
theorem content_spec {closer text : List Char}
    (nonempty : ((Pattern.closing closer).scanUntil text).2 ≠ []) (ink : Text.InkFirst text) :
    ∃ content gap rest, text = content ++ (gap ++ (closer ++ rest)) ∧
      (Pattern.closing closer).scanUntil text = (content, gap ++ (closer ++ rest)) ∧
      Text.InkFirst content ∧ Text.InkLast content ∧ Text.Blank gap ∧
      Text.Absent closer content (gap ++ (closer ++ rest)) := by
  have whole := Pattern.scanUntil_append (.closing closer) text
  obtain ⟨misses, ended | hit⟩ := Pattern.scanUntil_spec (.closing closer) text
  · exact (nonempty ended).elim
  · obtain ⟨gap, rest, same, blank⟩ := Pattern.hits_closing.mp hit
    have last := inkLast_of_misses misses hit
    generalize (Pattern.closing closer).scanUntil text = parts at *
    obtain ⟨content, behind⟩ := parts
    simp only at same misses hit whole last
    subst same
    refine ⟨content, gap, rest, whole.symm, rfl, fun char member => ?_, last, blank,
      Pattern.absent_of_misses misses⟩
    refine ink char ?_
    rw [← whole]
    exact List.mem_head?_append_of_mem_head? member

/-- The sigil of a tag, or none. -/
theorem readSigil_spec (text : List Char) :
    (∃ char rest, text = char :: rest ∧ char ∈ Pattern.sigils ∧
      readSigil text = (some char, rest)) ∨ readSigil text = (none, text) := by
  cases text with
  | nil => exact Or.inr rfl
  | cons char rest =>
    by_cases member : char ∈ Pattern.sigils
    · exact Or.inl ⟨char, rest, rfl, member, readSigil_mem member⟩
    · refine Or.inr (readSigil_none fun other same => ?_)
      cases same
      exact member

/-- The sigils of the tags without additions. -/
theorem TagSort.exists_sigil {char : Char} (member : char ∈ Pattern.sigils)
    (notBrace : char ≠ '\x7b') (notEquals : char ≠ '=') :
    ∃ sort : TagSort, sort.sigil = some char := by
  unfold Pattern.sigils at member
  simp only [List.mem_cons, List.not_mem_nil, or_false] at member
  rcases member with rfl | rfl | rfl | rfl | rfl | rfl | rfl | rfl
  · exact ⟨.plainSection, rfl⟩
  · exact ⟨.invertedSection, rfl⟩
  · exact ⟨.close, rfl⟩
  · exact ⟨.partialTag, rfl⟩
  · exact (notBrace rfl).elim
  · exact ⟨.unescaped, rfl⟩
  · exact (notEquals rfl).elim
  · exact ⟨.comment, rfl⟩

/-- The content of a tag without additions. -/
theorem tagText_plain (sort : TagSort) {text content gap rest : List Char}
    (ink : Text.InkFirst text) (blank : Text.Blank gap)
    (read : readContent delimiters sort.sigil text =
      (content, gap ++ (delimiters.closing.toList ++ rest))) (first second : Blanks) :
    ∃ tail, text = tail ++ rest ∧
      TagText Slack.blanks delimiters sort.kind content (delimiters.opening.toList ++
        (first.val ++ (sort.sigil.toList ++ (second.val ++ tail)))) := by
  rw [sort.readContent_sigil] at read
  have ne : (delimiters.closingPattern.scanUntil text).2 ≠ [] := by
    rw [read]
    simp [delimiters.closing_toList_ne]
  obtain ⟨other, _, _, whole, found, start, stop, _, _⟩ := content_spec ne ink
  obtain ⟨rfl, same⟩ := Prod.mk.inj (read.symm.trans found)
  refine ⟨content ++ (gap ++ delimiters.closing.toList), ?_,
    .plain sort ⟨first, second, gap, blank⟩ content start stop⟩
  rw [whole, ← same]
  simp only [List.append_assoc]

/-- The content of a variable in one more pair of braces. -/
theorem tagText_braced {text content gap rest : List Char}
    (ink : Text.InkFirst text) (blank : Text.Blank gap)
    (read : readContent delimiters (some '\x7b') text =
      (content, gap ++ (delimiters.closing.toList ++ rest))) (first second : Blanks) :
    ∃ tail, text = tail ++ rest ∧ TagText Slack.blanks delimiters .unescaped content
      (delimiters.opening.toList ++ (first.val ++ ('\x7b' :: (second.val ++ tail)))) := by
  have ne : (delimiters.closingBracePattern.scanUntil text).2 ≠ [] := by
    intro empty
    have left := congrArg Prod.snd read
    simp [readContent, empty, Pattern.scan, Pattern.scanUntil, delimiters.closing_toList_ne] at left
  obtain ⟨other, between, following, whole, search, start, stop, white, _⟩ := content_spec ne ink
  obtain ⟨rfl, left⟩ := Prod.mk.inj ((readContent_braced search white).symm.trans read)
  refine ⟨other ++ (between ++ ('\x7d' :: (gap ++ delimiters.closing.toList))), ?_,
    .braced ⟨first, second, between, white⟩ other gap start stop
      ⟨blank, fun black => blank.eq_nil
        (left ▸ black.append_of_ne delimiters.closing_toList_ne following)⟩⟩
  rw [whole, List.cons_append, left]
  simp only [List.append_assoc, List.cons_append]

/-- The content of a delimiter tag. -/
theorem tagText_change {text content gap rest : List Char}
    (ink : Text.InkFirst text) (blank : Text.Blank gap)
    (read : readContent delimiters (some '=') text =
      (content, gap ++ (delimiters.closing.toList ++ rest))) (first second : Blanks) :
    ∃ tail, text = tail ++ rest ∧ TagText Slack.blanks delimiters .delimiters content
      (delimiters.opening.toList ++ (first.val ++ ('=' :: (second.val ++ tail)))) := by
  have ne : (Pattern.equalsSign.scanUntil text).2 ≠ [] := by
    intro empty
    have left := congrArg Prod.snd read
    simp [readContent, empty, Pattern.scan, Pattern.scanUntil, delimiters.closing_toList_ne] at left
  obtain ⟨other, between, following, whole, search, start, stop, white, _⟩ := content_spec ne ink
  rw [List.singleton_append] at whole search
  obtain ⟨rfl, left⟩ := Prod.mk.inj ((readContent_change search white).symm.trans read)
  have behind := Pattern.scanUntil_append delimiters.closingPattern following
  obtain ⟨misses, _⟩ := Pattern.scanUntil_spec delimiters.closingPattern following
  rw [left] at behind misses
  generalize (delimiters.closingPattern.scanUntil following).1 = skipped at behind misses
  have absent := Pattern.absent_of_misses misses
  rw [← List.append_assoc] at absent
  refine ⟨other ++ (between ++ ('=' :: (skipped ++ (gap ++ delimiters.closing.toList)))), ?_, ?_⟩
  · rw [whole, ← behind]
    simp only [List.append_assoc, List.cons_append]
  · by_cases black : Text.InkFirst delimiters.closing.toList
    · have closes := absent.of_append.append_run
        (Text.absent_blank black delimiters.closing_toList_ne blank delimiters.closing.toList)
      have text : TagText Slack.blanks delimiters .delimiters other _ :=
        .change ⟨first, second, between, white⟩ other (skipped ++ gap) [] start stop
          ⟨Text.blank_nil, fun _ => rfl⟩ closes
      rwa [List.append_assoc, List.nil_append] at text
    · exact .change ⟨first, second, between, white⟩ other skipped gap start stop
        ⟨blank, fun ink => (black ink).elim⟩ absent.of_append

/-- The content of a tag with any sigil or none. -/
theorem tagText_of_readContent {sigil : Option Char} {text content gap rest : List Char}
    (known : ∀ char ∈ sigil, char ∈ Pattern.sigils) (ink : Text.InkFirst text)
    (blank : Text.Blank gap)
    (read : readContent delimiters sigil text =
      (content, gap ++ (delimiters.closing.toList ++ rest))) (first second : Blanks) :
    ∃ tail, text = tail ++ rest ∧ TagText Slack.blanks delimiters (kindOf sigil) content
      (delimiters.opening.toList ++ (first.val ++ (sigil.toList ++ (second.val ++ tail)))) := by
  match sigil with
  | none => exact tagText_plain .name ink blank read first second
  | some char =>
    by_cases brace : char = '\x7b'
    · subst brace
      exact tagText_braced ink blank read first second
    · by_cases equals : char = '='
      · subst equals
        exact tagText_change ink blank read first second
      · obtain ⟨sort, same⟩ := TagSort.exists_sigil (known char rfl) brace equals
        rw [← same] at read ⊢
        rw [sort.kindOf_sigil]
        exact tagText_plain sort ink blank read first second

/-- The parts of a tag that has been read. -/
theorem readTag?_parts_of {inside rest : List Char} {token : Token}
    (read : readTag? delimiters offset (delimiters.opening.toList ++ inside) = some (token, rest)) :
    ∃ sigil afterSigil content gap,
      readSigil (Text.afterBlanks inside) = (sigil, afterSigil) ∧
      readContent delimiters sigil (Text.afterBlanks afterSigil) =
        (content, gap ++ (delimiters.closing.toList ++ rest)) ∧ Text.Blank gap ∧
      Pattern.blanksBefore? delimiters.closing.toList (gap ++ (delimiters.closing.toList ++ rest)) =
        some gap.length ∧
      token = .ofKind (kindOf sigil) ⟨String.ofList content, offset, offset +
        Int.ofNat ((delimiters.opening.toList ++ inside).length - rest.length)⟩ := by
  have opened : (delimiters.openingPattern.scan (delimiters.opening.toList ++ inside)).2 =
      Text.afterBlanks inside := by
    unfold Delimiters.openingPattern
    rw [Pattern.scan_opening]
  unfold readTag? at read
  simp only [opened] at read
  generalize sort : readSigil (Text.afterBlanks inside) = signed at read ⊢
  obtain ⟨sigil, afterSigil⟩ := signed
  generalize found : readContent delimiters sigil (Text.afterBlanks afterSigil) = parts at read
  obtain ⟨content, behind⟩ := parts
  simp only at read
  split at read
  · cases read
  · rename_i size matched
    obtain ⟨rfl, rfl⟩ := Prod.mk.inj (Option.some.inj read)
    unfold Delimiters.closingPattern at matched
    rw [Pattern.matchLength?_closing] at matched
    obtain ⟨count, closes, rfl⟩ := Option.map_eq_some_iff.mp matched
    obtain ⟨gap, following, rfl, blank, rfl⟩ := Pattern.blanksBefore?_spec closes
    have left : (gap ++ (delimiters.closing.toList ++ following)).drop
        (gap.length + delimiters.closing.toList.length) = following := by
      rw [← List.append_assoc, ← List.length_append, List.drop_left]
    rw [left]
    exact ⟨sigil, afterSigil, content, gap, rfl, found, blank, closes, rfl⟩

theorem kind_ofKind (kind : Token.Kind) (span : Span) : (Token.ofKind kind span).kind = kind := by
  cases kind <;> rfl

theorem span_ofKind (kind : Token.Kind) (span : Span) : (Token.ofKind kind span).span = span := by
  cases kind <;> rfl

/-- **What is read as a tag is the text of that tag**, and its offsets are those of the text. -/
theorem tagText_of_readTag? {text rest : List Char} {token : Token}
    (opens : delimiters.opening.toList <+: text)
    (read : readTag? delimiters offset text = some (token, rest)) :
    ∃ source, text = source ++ rest ∧ token.span.start = offset ∧
      token.span.stop = offset + source.length ∧
      TagText Slack.blanks delimiters token.kind token.span.value.toList source := by
  obtain ⟨inside, rfl⟩ := opens
  obtain ⟨sigil, afterSigil, content, gap, sort, found, blank, _, rfl⟩ := readTag?_parts_of read
  have mark : Text.afterBlanks inside = sigil.toList ++ afterSigil ∧
      ∀ char ∈ sigil, char ∈ Pattern.sigils := by
    rcases readSigil_spec (Text.afterBlanks inside) with ⟨char, more, same, member, signed⟩ | plain
    · obtain ⟨rfl, rfl⟩ := Prod.mk.inj (sort.symm.trans signed)
      refine ⟨same, fun other equal => ?_⟩
      cases equal
      exact member
    · obtain ⟨rfl, rfl⟩ := Prod.mk.inj (sort.symm.trans plain)
      exact ⟨rfl, fun _ none => by cases none⟩
  obtain ⟨tail, same, tag⟩ := tagText_of_readContent mark.2 (Text.inkFirst_afterBlanks afterSigil)
    blank found ⟨Text.blankRun inside, Text.blank_blankRun inside⟩
    ⟨Text.blankRun afterSigil, Text.blank_blankRun afterSigil⟩
  have whole : delimiters.opening.toList ++ inside = delimiters.opening.toList ++
      (Text.blankRun inside ++ (sigil.toList ++ (Text.blankRun afterSigil ++ tail))) ++ rest := by
    conv_lhs => rw [← Text.blankRun_append_afterBlanks inside, mark.1,
      ← Text.blankRun_append_afterBlanks afterSigil, same]
    simp only [List.append_assoc]
  refine ⟨_, whole, ?_, ?_, ?_⟩
  · rw [span_ofKind]
  · rw [span_ofKind, whole, List.length_append, Nat.add_sub_cancel]
    rfl
  · rw [span_ofKind, kind_ofKind, String.toList_ofList]
    exact tag

end Mustache
