import Mustache.Proofs.JoinedRenderings
import Mustache.Proofs.Printing
import Mustache.Proofs.RecalledNames

/-!
**Blocks whose tags stand alone on their lines.**

The two tags of a block may stand alone on their lines, with blanks around them, and a body of whole
lines between them. Then the lines of the tags leave no trace: if the block is shown, it comes to
what the body comes to by itself, and to nothing otherwise.

* `Token.LoneTag`: a line with one tag and blanks around it.
* `Item.alone`, `BlockLines`: such lines as they are written, and a block between two of them.
* `tokenize_around`, `parse_around`: the tokens of a body between two such lines, and its tree.
* `Render.outcome_around`: **the main statement.**
-/

namespace Mustache

variable {σ : Type}

open Lexer

/-! ### Lines with one tag -/

namespace Token

/-- **A line with one tag and blanks around it.** Only its last token may be a line feed. -/
structure LoneTag (tag : Token) (line : List Token) : Prop where
  tags : line.filter (fun token => !token.isText) = [tag]
  white : ∀ token ∈ line, token.isText = true → token.isWhite = true
  single : line.IsChain fun token _ => token.isNewline = false

/-- A tag with blanks before and behind it, and at most one token more, which may be a line feed. -/
theorem loneTag_of_parts {tag : Token} {left right last : List Token} (other : tag.isText = false)
    (before : ∀ token ∈ left, token.isWhite = true ∧ token.isNewline = false)
    (behind : ∀ token ∈ right, token.isWhite = true ∧ token.isNewline = false)
    (white : ∀ token ∈ last, token.isWhite = true) (short : last.length ≤ 1) :
    LoneTag tag (left ++ ([tag] ++ (right ++ last))) := by
  have texts : ∀ {tokens : List Token}, (∀ token ∈ tokens, token.isWhite = true) →
      tokens.filter (fun token => !token.isText) = [] := by
    intro tokens all
    refine List.filter_eq_nil_iff.mpr fun token member => ?_
    rw [(Bool.and_eq_true_iff.mp (all token member)).1]
    exact Bool.false_ne_true
  have plain : tag.isNewline = false := by
    cases tag with
    | text _ => cases other
    | _ => rfl
  constructor
  · rw [List.filter_append, List.filter_append, List.filter_append,
      texts fun token member => (before token member).1,
      texts fun token member => (behind token member).1, texts white,
      List.filter_singleton, other]
    rfl
  · intro token member text
    simp only [List.mem_append, List.mem_singleton] at member
    rcases member with inside | rfl | inside | inside
    · exact (before token inside).1
    · rw [other] at text
      cases text
    · exact (behind token inside).1
    · exact white token inside
  · have front : ∀ token ∈ left ++ ([tag] ++ right), token.isNewline = false := by
      simp only [List.mem_append, List.mem_singleton]
      rintro token (inside | rfl | inside)
      · exact (before token inside).2
      · exact plain
      · exact (behind token inside).2
    rw [← List.append_assoc [tag], ← List.append_assoc left, List.isChain_append]
    refine ⟨(List.pairwise_of_forall_mem_list fun token member _ _ => front token member).isChain,
      ?_, fun token member _ _ => front token (List.mem_of_mem_getLast? member)⟩
    match last, short with
    | [], _ => exact .nil
    | [token], _ => exact .singleton token

namespace LoneTag

variable {tag : Token} {line : List Token} (lone : LoneTag tag line)

include lone

theorem mem_of_tag {token : Token} (member : token ∈ line) (other : token.isText = false) :
    token = tag := by
  have kept : token ∈ line.filter fun token => !token.isText :=
    List.mem_filter.mpr ⟨member, by rw [other]; rfl⟩
  rw [lone.tags] at kept
  exact List.mem_singleton.mp kept

theorem tag_mem : tag ∈ line ∧ tag.isText = false := by
  have kept : tag ∈ line.filter fun token => !token.isText := by
    rw [lone.tags]
    exact List.mem_singleton_self tag
  obtain ⟨member, other⟩ := List.mem_filter.mp kept
  exact ⟨member, by simpa using other⟩

/-- The line is standalone unless its tag is a variable. -/
theorem standalone (plain : tag.isInterpolation = false) : Standalone line := by
  obtain ⟨member, other⟩ := lone.tag_mem
  refine (standalone_iff line).mpr (Bool.and_eq_true_iff.mpr ⟨?_, ?_⟩)
  · exact List.any_eq_true.mpr ⟨tag, member, by rw [other]; rfl⟩
  · rw [Bool.not_eq_true', List.any_eq_false]
    intro token inside
    by_cases text : token.isText = true
    · have white := lone.white token inside text
      cases token with
      | text span => simpa [isSolid, isInterpolation, isWhite, isText] using white
      | _ => cases text
    · rw [lone.mem_of_tag inside (Bool.eq_false_iff.mpr text), isSolid, plain, Bool.or_false]
      cases tag with
      | text _ => cases other
      | _ => exact Bool.false_ne_true

/-- **Only the tag is left of the line.** -/
theorem keep (plain : tag.isInterpolation = false) : keep (strippedIndexes line) line = [tag] := by
  have alone : lines line = [line] := List.splitBy_of_isChain
    (List.ne_nil_of_mem lone.tag_mem.1) (lone.single.imp fun _ _ same => by rw [same]; rfl)
  rw [keep_strippedIndexes, alone, List.flatMap_singleton, keptOf,
    if_pos (lone.standalone plain), lone.tags]

/-- The tag of a section carries no line. -/
theorem annotate (mark : tag.isSectionMark = true) (host : HostLine) :
    annotate host line = line := by
  have bare : ∀ token ∈ line, ∀ host, token.onLine host = token := by
    intro token member host
    cases token with
    | partialTag span own =>
      rw [← lone.mem_of_tag member rfl] at mark
      cases mark
    | _ => rfl
  clear lone
  induction line generalizing host with
  | nil => rfl
  | cons token rest hypothesis =>
    obtain ⟨here, later⟩ := List.forall_mem_cons.mp bare
    rw [Token.annotate, here, hypothesis _ later]

/-- The line opens and closes nothing unless its tag does. -/
theorem balanced_leaf (leaf : tag.isSectionMark = false) : Balanced line := by
  have single : Balanced [tag] := .leaf leaf .nil
  refine (balanced_congr ?_).mp single
  rw [lone.tags, List.filter_cons_of_pos (by rw [lone.tag_mem.2]; rfl), List.filter_nil]

end LoneTag

/-- Balanced tokens between the lines of the two tags of a section. -/
theorem LoneTag.balanced {inverted : Bool} {opener closer : Span} {body : List Token} {stop : Int}
    {front back inner : List Token} (first : LoneTag (block inverted opener body stop) front)
    (last : LoneTag (close closer) back) (same : closer.value = opener.value)
    (balanced : Balanced inner) : Balanced (front ++ (inner ++ back)) := by
  have whole : Balanced (block inverted opener body stop :: (inner ++ [close closer])) :=
    .section same balanced .nil
  refine (balanced_congr ?_).mp whole
  rw [List.filter_append, List.filter_append, first.tags, last.tags,
    List.filter_cons_of_pos rfl, List.filter_append, List.filter_cons_of_pos rfl, List.filter_nil]
  rfl

end Token

/-- Blanks within a line. -/
abbrev Margin := { text : List Char // Text.Blank text ∧ '\n' ∉ text }

/-- What stands behind the last character of a line: a line feed, or nothing if the template ends
there. -/
def lineEnd (fed : Bool) : List Char := if fed then ['\n'] else []

namespace Item

/-- **A tag alone on its line**, with blanks around it. -/
def alone (before : Margin) (tag : Item) (after : Margin) (fed : Bool) : List Item :=
  [.text before.val, tag, .text after.val, .text (lineEnd fed)]

variable {delimiters : Delimiters} {before after : Margin} {fed : Bool}

theorem isWhite_textTokens {run : List Char} (blank : Text.Blank run) {offset : Int}
    {token : Token} (member : token ∈ textTokens offset run) : token.isWhite = true := by
  obtain ⟨char, inside, place, rfl⟩ := exists_char_of_mem member
  simp [charToken, Token.isWhite, Token.isText, Token.isInk, blank char inside]

theorem blank_lineEnd (fed : Bool) : Text.Blank (lineEnd fed) := by
  cases fed with
  | false => exact Text.blank_nil
  | true =>
    intro char member
    obtain rfl := List.mem_singleton.mp member
    decide +kernel

/-- The tokens of a tag alone on its line, part by part. -/
theorem tokensOf_alone (before after : Margin) (sort : TagSort) (gaps : Gaps) (content : List Char)
    (fed : Bool) (offset : Int) :
    ∃ span first second, span.value = String.ofList content ∧
      tokensOf delimiters offset (alone before (.tag sort gaps content) after fed) =
        textTokens offset before.val ++ ([.ofKind sort.kind span] ++
          (textTokens first after.val ++ textTokens second (lineEnd fed))) := by
  have tag : ∀ run, Item.tag sort gaps content ≠ .text run := nofun
  unfold alone
  rw [tokensOf, tokensOf, tokensOf, tokensOf, tokensOf, tokens_tag tag, tokens_text, tokens_text,
    tokens_text, List.append_nil]
  exact ⟨_, _, _, rfl, rfl⟩

/-- Any tag among the blanks of such a line. -/
theorem loneTag_margins (before after : Margin) (fed : Bool) {tag : Token}
    (other : tag.isText = false) (offset first second : Int) :
    Token.LoneTag tag (textTokens offset before.val ++ ([tag] ++
      (textTokens first after.val ++ textTokens second (lineEnd fed)))) := by
  have margin : ∀ (margin : Margin) (offset : Int), ∀ token ∈ textTokens offset margin.val,
      token.isWhite = true ∧ token.isNewline = false := fun margin offset token member =>
    ⟨isWhite_textTokens margin.property.1 member,
      isNewline_textTokens margin.property.2 offset token member⟩
  refine Token.loneTag_of_parts other (margin before offset) (margin after first)
    (fun token member => isWhite_textTokens (blank_lineEnd fed) member) ?_
  cases fed <;> exact Nat.le_of_ble_eq_true rfl

/-- **The tokens of a tag alone on its line.** -/
theorem loneTag_alone (before after : Margin) (sort : TagSort) (gaps : Gaps) (content : List Char)
    (fed : Bool) (offset : Int) :
    ∃ span, span.value = String.ofList content ∧ Token.LoneTag (.ofKind sort.kind span)
      (tokensOf delimiters offset (alone before (.tag sort gaps content) after fed)) := by
  obtain ⟨span, first, second, value, same⟩ :=
    tokensOf_alone before after sort gaps content fed offset
  rw [same]
  exact ⟨span, value, loneTag_margins before after fed (by cases sort <;> rfl) _ _ _⟩

/-- The line of a tag ends with a line feed if there is one. -/
theorem newline_alone (before after : Margin) (tag : Item) (offset : Int) :
    ∃ token ∈ (tokensOf delimiters offset (alone before tag after true)).getLast?,
      token.isNewline = true := by
  have feed : ∀ delimiters offset, ∃ token ∈ ((Item.text (lineEnd true)).tokens delimiters
      offset).getLast?, token.isNewline = true := fun _ offset =>
    ⟨charToken '\n' (offset + 0), rfl, (isNewline_charToken _ _).mpr rfl⟩
  unfold alone
  rw [tokensOf, tokensOf, tokensOf, tokensOf, tokensOf, List.append_nil]
  obtain ⟨token, member, newline⟩ := feed _ _
  refine ⟨token, List.mem_getLast?_append_of_mem_getLast? ?_, newline⟩
  exact List.mem_getLast?_append_of_mem_getLast? (List.mem_getLast?_append_of_mem_getLast? member)

/-- It is printed with the line feed at its end. -/
theorem getLast?_alone (before after : Margin) (tag : Item) :
    (printAll delimiters (alone before tag after true)).getLast? = some '\n' := by
  unfold alone
  rw [printAll, printAll, printAll, printAll, printAll, List.append_nil]
  refine List.mem_getLast?_append_of_mem_getLast? ?_
  exact List.mem_getLast?_append_of_mem_getLast? (List.mem_getLast?_append_of_mem_getLast? rfl)

/-- The line of a tag can be read as it is printed. -/
theorem legibleAll_alone (unbroken : delimiters.Unbroken) (before after : Margin) {sort : TagSort}
    {gaps : Gaps} {content : List Char}
    (legible : (Item.tag sort gaps content).Legible delimiters []) (fed : Bool) :
    LegibleAll delimiters (alone before (.tag sort gaps content) after fed) := by
  have blank : ∀ {run : List Char}, Text.Blank run → ∀ following,
      (Item.text run).Legible delimiters following := unbroken.absent_blank
  exact ⟨blank before.property.1 _, legible, blank after.property.1 _,
    blank (blank_lineEnd fed) _, trivial⟩

end Item

/-! ### Blocks -/

/-- **A block whose tags stand alone on their lines**: its name, the blanks in its tags and around
them, and whether a line feed follows the second one. -/
structure BlockLines where
  inverted : Bool
  name : List Char
  opening : Gaps
  closing : Gaps
  beforeOpening : Margin
  afterOpening : Margin
  beforeClosing : Margin
  afterClosing : Margin
  fed : Bool

namespace BlockLines

variable (block : BlockLines)

/-- The sort of the first tag. -/
def sort : TagSort := if block.inverted then .invertedSection else .plainSection

/-- The line of the first tag. -/
def first : List Item :=
  Item.alone block.beforeOpening (.tag block.sort block.opening block.name) block.afterOpening true

/-- The line of the second tag. -/
def last : List Item :=
  Item.alone block.beforeClosing (.tag .close block.closing block.name) block.afterClosing block.fed

/-- **The template of the block**: a body between the two lines. -/
def around (delimiters : Delimiters) (body : String) : String :=
  String.ofList (Item.printAll delimiters block.first) ++ body ++
    String.ofList (Item.printAll delimiters block.last)

/-- Both tags end where their closing delimiters are printed. -/
def Legible (delimiters : Delimiters) : Prop :=
  (Item.tag block.sort block.opening block.name).Legible delimiters [] ∧
    (Item.tag .close block.closing block.name).Legible delimiters []

instance (delimiters : Delimiters) : Decidable (block.Legible delimiters) := by
  unfold Legible
  infer_instance

variable {block} {delimiters : Delimiters}

theorem lex_first (unbroken : delimiters.Unbroken) (legible : block.Legible delimiters) :
    lex delimiters 0 (Item.printAll delimiters block.first) =
      ⟨Item.tokensOf delimiters 0 block.first, none, delimiters⟩ :=
  lex_printAll unbroken.inkFirst_closing (Item.legibleAll_alone unbroken _ _ legible.1 true)

theorem lex_last (unbroken : delimiters.Unbroken) (legible : block.Legible delimiters)
    (offset : Int) :
    lex delimiters offset (Item.printAll delimiters block.last) =
      ⟨Item.tokensOf delimiters offset block.last, none, delimiters⟩ :=
  lex_printAll unbroken.inkFirst_closing (Item.legibleAll_alone unbroken _ _ legible.2 block.fed)

/-- **The text of the block is lexed** line by line: its first tag, the body as if it stood alone,
and its second tag. -/
theorem lex_around (unbroken : delimiters.Unbroken) (legible : block.Legible delimiters)
    {body : String} (sound : (lex delimiters 0 body.toList).fault = none)
    (ended : ∀ char ∈ body.toList.getLast?, Text.isBlank char = true)
    (restored : (lex delimiters 0 body.toList).delimiters = delimiters) :
    ∃ offset, lex delimiters 0 (block.around delimiters body).toList =
      ⟨Item.tokensOf delimiters 0 block.first ++
        ((lex delimiters 0 body.toList).tokens.map
            (Token.shift (Item.printAll delimiters block.first).length) ++
          Item.tokensOf delimiters offset block.last), none, delimiters⟩ := by
  have front := lex_first unbroken legible
  have blank : ∀ char ∈ (Item.printAll delimiters block.first).getLast?,
      Text.isBlank char = true := by
    intro char member
    rw [first, Item.getLast?_alone] at member
    cases member
    decide +kernel
  have moved := lex_shift (Item.printAll delimiters block.first).length delimiters 0 body.toList
  have behind : (lex delimiters (0 + (Item.printAll delimiters block.first).length)
      body.toList).fault = none := by
    rw [moved, Lexed.shift, sound]
    rfl
  unfold around
  rw [String.toList_append, String.toList_append, String.toList_ofList, String.toList_ofList,
    List.append_assoc, lex_append unbroken blank (by rw [front]), front,
    lex_append unbroken ended behind, moved]
  show ∃ offset, ((lex (lex delimiters 0 body.toList).delimiters _ _).prepend _).prepend _ = _
  rw [restored, lex_last unbroken legible]
  exact ⟨_, rfl⟩

/-- A text whose tokens end with a line feed, if there are any, ends with a blank, if it is not
empty. -/
theorem blank_of_read {body : String} {reading : Reading}
    (read : Reading.ofTemplate delimiters body = .ok reading)
    (ended : ∀ token ∈ reading.tokens.toList.getLast?, token.isNewline = true) :
    ∀ char ∈ body.toList.getLast?, Text.isBlank char = true := by
  intro char member
  obtain rfl := Reading.getLast?_newline read ended char member
  decide +kernel

/-- The line of the first tag. -/
theorem loneTag_first (block : BlockLines) (delimiters : Delimiters) :
    ∃ span, span.value = String.ofList block.name ∧
      Token.LoneTag (.block block.inverted span [] Token.openStop)
        (Item.tokensOf delimiters 0 block.first) := by
  have kind : ∀ span, Token.ofKind block.sort.kind span =
      .block block.inverted span [] Token.openStop := by
    intro span
    unfold sort
    cases block.inverted <;> rfl
  obtain ⟨span, name, lone⟩ := Item.loneTag_alone block.beforeOpening block.afterOpening
    block.sort block.opening block.name true 0
  rw [kind] at lone
  exact ⟨span, name, lone⟩

/-- The line of the second tag. -/
theorem loneTag_last (block : BlockLines) (delimiters : Delimiters) (offset : Int) :
    ∃ span, span.value = String.ofList block.name ∧
      Token.LoneTag (.close span) (Item.tokensOf delimiters offset block.last) :=
  Item.loneTag_alone _ _ .close _ _ _ offset

/-- **The tokens of a body between the two lines**: those of the line of each tag, and between them
those of the body, which stand further on. -/
theorem tokenize_around (unbroken : delimiters.Unbroken) (legible : block.Legible delimiters)
    {body : String} {reading : Reading}
    (read : Reading.ofTemplate delimiters body = .ok reading)
    (ended : ∀ token ∈ reading.tokens.toList.getLast?, token.isNewline = true)
    (restored : reading.delimiters = delimiters) :
    ∃ opener closer front back, opener.value = String.ofList block.name ∧
      closer.value = opener.value ∧
      Token.LoneTag (.block block.inverted opener [] Token.openStop) front ∧
      Token.LoneTag (.close closer) back ∧
      (∀ token ∈ front.getLast?, token.isNewline = true) ∧
      tokenize delimiters (block.around delimiters body) = .ok (front ++
        (reading.tokens.toList.map (Token.shift (Item.printAll delimiters block.first).length) ++
          back)) := by
  have blank := blank_of_read read ended
  obtain ⟨sound, balanced, rfl⟩ :=
    Reading.ofText_eq_ok_iff.mp (Reading.ofTemplate_eq_ok_iff.mp read)
  rw [Reading.after_tokens]
  obtain ⟨offset, lexed⟩ := lex_around unbroken legible sound blank restored
  obtain ⟨opener, name, front⟩ := block.loneTag_first delimiters
  obtain ⟨closer, again, back⟩ := block.loneTag_last delimiters offset
  have feed : ∃ token ∈ (Item.tokensOf delimiters 0 block.first).getLast?,
      token.isNewline = true := Item.newline_alone _ _ _ 0
  refine ⟨opener, closer, _, _, name, again.trans name.symm, front, back, fun token member => ?_,
    tokenize_eq_ok_iff.mpr ?_⟩
  · obtain ⟨last, here, newline⟩ := feed
    rw [Option.mem_unique member here]
    exact newline
  · rw [lexed]
    refine ⟨rfl, front.balanced back (again.trans name.symm) (balanced.shift _), ?_⟩
    rw [Token.annotate_append, Token.annotate_append, front.annotate rfl, back.annotate rfl,
      HostLine.foldl_newline feed, ← Token.annotate_shift]

/-- **The tree of a body between the two lines** is one block, whose body is like the tree that the
body has by itself. -/
theorem parse_around (unbroken : delimiters.Unbroken) (legible : block.Legible delimiters)
    {body : String} {reading : Reading}
    (read : Reading.ofTemplate delimiters body = .ok reading)
    (ended : ∀ token ∈ reading.tokens.toList.getLast?, token.isNewline = true)
    (restored : reading.delimiters = delimiters) :
    ∃ tree span images stop, parse delimiters body = .ok tree ∧
      span.value = String.ofList block.name ∧
      parse delimiters (block.around delimiters body) =
        .ok [.block block.inverted span images stop] ∧
      Token.AllAlike (Token.Beside body (block.around delimiters body)) tree images := by
  obtain ⟨opener, closer, front, back, name, same, first, last, newline, tokenized⟩ :=
    tokenize_around unbroken legible read ended restored
  have bodyRead := Reading.tokenize_eq read
  obtain ⟨images, nests, alike⟩ := exists_tree_within bodyRead
    (Token.nests_of_tokenize bodyRead) (String.ofList (Item.printAll delimiters block.first))
    (String.ofList (Item.printAll delimiters block.last))
  rw [← String.length_toList, String.toList_ofList] at nests
  refine ⟨_, opener, images, closer.start, parse_eq_ok_iff.mpr ⟨_, bodyRead, rfl⟩, name,
    parse_eq_ok_iff.mpr ⟨_, tokenized, ?_⟩, alike⟩
  refine Token.Nests.eq ?_ (Token.nests_of_tokenize tokenized)
  -- the lines of the tags leave the tags, which stand apart from the texts of the body
  have moved : ∀ token ∈ (reading.tokens.toList.map
      (Token.shift (Item.printAll delimiters block.first).length)).getLast?,
      token.isNewline = true := by
    intro token member
    rw [List.getLast?_map] at member
    obtain ⟨own, inside, rfl⟩ := Option.map_eq_some_iff.mp member
    rw [Token.shift_isNewline]
    exact ended own inside
  rw [Token.keep_append newline, Token.keep_append moved, first.keep rfl, last.keep rfl,
    Token.keep_shift, Token.squash_append (fun token member text => ?_),
    Token.squash_append (fun _ _ _ token member => ?_), Token.squash_shift]
  · exact .section same (Token.Nests.balanced nests) nests .nil
  · cases member
    rfl
  · cases member
    cases text

end BlockLines

namespace Render

open Mustache.Action

variable {setting : Setting σ}

/-! ### Renderings -/

/-- The value is one for which a block comes to its body in the frame at hand: true, or for an
inverted block any value that counts as false. -/
def Shows (inverted : Bool) (value : Value) : Prop :=
  if inverted then value.isTruthy = false else value = .bool true

section Block

variable {depth : Nat} {views : Views} {text : String} {inverted : Bool} {span : Span}
  {body : List Token} {stop : Int} {value : Value} {session after : Session σ}
  (found : (lookup setting views span.value).outcome session = (.ok value, after))

/-- The text of one token. -/
theorem piecesOf_single (token : Token) :
    (piecesOf setting depth views text [token] >>= joinPieces) =
      (do let piece ← renderToken setting.search setting (renderText setting depth)
            (renderExpansion setting (renderText setting depth) (some text)) views token
          joinPieces [piece]) := by
  unfold piecesOf
  rw [renderPieces_cons, renderPieces]
  simp only [bind_assoc, pure_bind]

/-- A text is written as it is. -/
theorem joinPieces_text (content : String) :
    (joinPieces [.text content] : Action σ String) = pure content := by
  unfold joinPieces
  rw [Piece.join?, Piece.join?, Option.map_some, String.append_empty]

include found

/-- **A block that is shown** comes to its body. -/
theorem outcome_shown (shown : Shows inverted value) :
    (piecesOf setting depth views text [.block inverted span body stop] >>= joinPieces).outcome
        session =
      (piecesOf setting depth views text body >>= joinPieces).outcome after := by
  change (lookupBy setting.search setting views span.value).outcome session = _ at found
  rw [piecesOf_single]
  cases inverted with
  | false =>
    obtain rfl : value = .bool true := shown
    unfold renderToken
    rw [bind_assoc, outcome_bind, found]
    show (((piecesOf setting depth views text body) >>= fun pieces =>
      Piece.text <$> joinPieces pieces) >>= fun piece => joinPieces [piece]).outcome after = _
    simp only [bind_assoc, bind_map_left, joinPieces_text, bind_pure]
  | true =>
    have false : value.isTruthy = false := shown
    unfold renderToken
    rw [bind_assoc, outcome_bind, found]
    simp only [false, Bool.false_eq_true, if_false]
    simp only [bind_assoc, bind_map_left, joinPieces_text, bind_pure]

/-- **A block that is hidden** comes to nothing. -/
theorem outcome_hidden (hidden : value.isTruthy = inverted) :
    (piecesOf setting depth views text [.block inverted span body stop] >>= joinPieces).outcome
        session = (.ok "", after) := by
  change (lookupBy setting.search setting views span.value).outcome session = _ at found
  rw [piecesOf_single]
  cases inverted with
  | false =>
    unfold renderToken
    rw [bind_assoc, outcome_bind, found]
    simp only [hidden, Bool.not_false, if_true, pure_bind]
    rfl
  | true =>
    unfold renderToken
    rw [bind_assoc, outcome_bind, found]
    simp only [hidden, if_true, pure_bind]
    rfl

end Block

/-- **The lines of the tags of a block leave no trace.** Its tags may stand alone on their lines,
with blanks around them and lines between them that use the same delimiters in the end. If the block
is shown, the whole comes to what the body comes to by itself behind the name of the block, with the
same memory and the state of the host in which looking the name up leaves it; if it is hidden, the
whole comes to the empty text. The names that the memory answers are answered as before. -/
theorem outcome_around {delimiters : Delimiters} {block : BlockLines} {body : String}
    {reading : Reading} (unbroken : delimiters.Unbroken) (legible : block.Legible delimiters)
    (resolved : setting.tags.resolve = .ok delimiters)
    (read : Reading.ofTemplate delimiters body = .ok reading)
    (ended : ∀ token ∈ reading.tokens.toList.getLast?, token.isNewline = true)
    (restored : reading.delimiters = delimiters) (depth : Nat) (views : Views)
    {session after : Session σ} (sound : session.CacheSound) {value : Value}
    (found : (lookup setting views (String.ofList block.name)).outcome session =
      (.ok value, after)) :
    let whole := (renderText setting (depth + 1) views (block.around delimiters body)).outcome
      session
    let alone := (renderText setting (depth + 1) views body).outcome
      { session with host := after.host }
    (Shows block.inverted value → whole.1 = alone.1 ∧ whole.2.host = alone.2.host ∧
      Memo.Recalls setting.host.access views whole.2.memo alone.2.memo) ∧
    (value.isTruthy = block.inverted → whole.1 = .ok "" ∧ whole.2.host = after.host ∧
      Memo.Recalls setting.host.access views whole.2.memo session.memo) := by
  intro whole alone
  obtain ⟨tree, span, images, stop, parsed, name, parsedWhole, alike⟩ :=
    block.parse_around unbroken legible read ended restored
  rw [← name] at found
  have recalled := recalled_lookup sound found
  have together : cachePairing.related views views session session :=
    ⟨rfl, rfl, rfl, sound, sound⟩
  obtain ⟨sameWhole, _, wholeMemo, wholeAfter⟩ :=
    agree_template resolved parsedWhole depth views session session together
  constructor
  · intro shown
    rw [outcome_shown found shown] at sameWhole wholeMemo wholeAfter
    have behind : cachePairing.related views views after after :=
      ⟨rfl, rfl, rfl, recalled.2.2.sound, recalled.2.2.sound⟩
    -- the body within the whole, the body by itself, and the same with the memory before the name
    obtain ⟨sameBody, _, bodyMemo, bodyAfter⟩ :=
      relates_body (agree_beside alike depth views views) trivial after after behind
    obtain ⟨sameTree, _, treeMemo, treeAfter⟩ :=
      agree_template resolved parsed depth views after after behind
    obtain ⟨sameText, _, recalls, textAfter⟩ :=
      agree_renderText_recalled (depth + 1) views views body after _ recalled
    refine ⟨?_, ?_, ?_⟩
    · calc whole.1
          = _ := sameWhole.eq.symm
        _ = _ := sameBody.eq.symm
        _ = _ := sameTree.eq
        _ = alone.1 := sameText.eq
    · calc whole.2.host
          = _ := wholeAfter.host.symm
        _ = _ := bodyAfter.host.symm
        _ = _ := treeAfter.host
        _ = alone.2.host := textAfter.host
    · have memo : whole.2.memo = _ := wholeMemo.symm.trans (bodyMemo.symm.trans treeMemo)
      rw [memo]
      exact recalls
  · intro hidden
    rw [outcome_hidden found hidden] at sameWhole wholeMemo wholeAfter
    refine ⟨sameWhole.eq.symm, wholeAfter.host.symm, ?_⟩
    show Memo.Recalls setting.host.access views whole.2.memo session.memo
    rw [← wholeMemo]
    exact recalled.2.1

/-- A block with blanks around and in its tags, the second of which ends the template. -/
def blankBlock (inverted : Bool) : BlockLines :=
  let none : Margin := ⟨[], Text.blank_nil, List.not_mem_nil⟩
  let one : Margin := ⟨[' '], Text.blank_space, mt List.mem_singleton.mp (by decide)⟩
  let gaps : Gaps := ⟨⟨[], Text.blank_nil⟩, ⟨[' '], Text.blank_space⟩, ⟨[], Text.blank_nil⟩⟩
  { inverted, name := ['s'], opening := gaps, closing := gaps, beforeOpening := one,
    afterOpening := one, beforeClosing := one, afterClosing := none, fed := false }

/-- A section whose value is a function, on a line, and a partial with a blank before it. -/
def linesBody : String := firstTemplate ++ " \x7b\x7b>p\x7d\x7d\n"

theorem outcome_around_blank :
    let views : Views := ⟨.mapping [(.text "x", .text "&"), (.text "s", .bool true),
      (.text "f", .sectionLambda ⟨0, ⟨"Fn", "f"⟩, 2⟩)], []⟩
    let rendered := fun text =>
      ((renderText joinedSetting 2 views text).outcome { host := [] }).1
    rendered ((blankBlock false).around .standard linesBody) = rendered linesBody ∧
      (rendered linesBody).toOption = some "a&amp;\n <&amp;>\n" ∧
      rendered ((blankBlock true).around .standard linesBody) = .ok "" := by
  intro views rendered
  have named : Delimiters.ofText? "\x7b\x7b \x7d\x7d" = some .standard := by decide +kernel
  have unbroken := Delimiters.unbroken_of_ofText? named
  have shape : (Reading.ofTemplate .standard linesBody).toOption.map (fun reading =>
      (reading.tokens.toList.getLast?.all Token.isNewline, reading.delimiters)) =
      some (true, .standard) := by decide +kernel
  have text : (rendered linesBody).toOption = some "a&amp;\n <&amp;>\n" := by decide +kernel
  obtain ⟨reading, read, shown⟩ := exists_ok_of_toOption_map shape
  obtain ⟨newline, force⟩ := Prod.mk.inj shown
  have ended : ∀ token ∈ reading.tokens.toList.getLast?, token.isNewline = true := by
    simpa [Option.all_eq_true] using newline
  have resolved : joinedSetting.tags.resolve = .ok .standard := rfl
  have sound : ({ host := [] } : Session Counts).CacheSound := nofun
  have found : (lookup joinedSetting views (String.ofList ['s'])).outcome { host := [] } =
      (.ok (.bool true), { host := [], memo := [("s", .bool true)] }) := rfl
  have block : (blankBlock false).Legible .standard := by decide +kernel
  have inverted : (blankBlock true).Legible .standard := by decide +kernel
  refine ⟨?_, text, ?_⟩
  · exact ((outcome_around unbroken block resolved read ended force 1 views sound found).1 rfl).1
  · exact ((outcome_around unbroken inverted resolved read ended force 1 views sound found).2 rfl).1

end Render

end Mustache
