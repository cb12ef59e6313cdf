import Mustache.Proofs.IndentedText
import Mustache.Proofs.JoinedTrees
import Mustache.Proofs.RenderingsSideBySide
import Mustache.Proofs.SectionBody

/-!
**Templates with a carriage return before each line feed.**

A carriage return is a blank. So the carriage return before a line feed stands on the line that the
line feed ends, it makes no difference to whether that line is standalone, and it is stripped with
the line feed or left with it. What is left of a template is left of the template with carriage
returns, and each of its texts has a carriage return before each of its line feeds.

* `Text.withReturns`: a text with a carriage return before each line feed.
* `OneLineTags`: templates without partial tags, each tag of which stands on one line.
* `Token.Returned`: the tokens of a text beside those of the text with carriage returns.
* `returned_lex`, `Returned.lines`, `Returned.keptOf`: lexing, lines, and what is left of them.
* `Returned.squash`, `Nests.exists_returned`: texts put together, and sections.
* `tokenize_withReturns`, `parse_withReturns`: **the tokens and the tree of a template with carriage
  returns.**
-/

namespace Mustache

open Lexer

/-! ### Texts -/

namespace Text

/-- A carriage return before each line feed of some characters. -/
def addReturns (text : List Char) : List Char :=
  text.flatMap fun char => if char = '\n' then ['\r', '\n'] else [char]

/-- **A text with a carriage return before each line feed.** -/
def withReturns (text : String) : String := String.ofList (addReturns text.toList)

theorem toList_withReturns (text : String) :
    (withReturns text).toList = addReturns text.toList := String.toList_ofList

theorem addReturns_newline (rest : List Char) :
    addReturns ('\n' :: rest) = '\r' :: '\n' :: addReturns rest := rfl

theorem addReturns_cons {char : Char} (plain : char ≠ '\n') (rest : List Char) :
    addReturns (char :: rest) = char :: addReturns rest := by
  unfold addReturns
  rw [List.flatMap_cons, if_neg plain]
  rfl

theorem addReturns_append (first second : List Char) :
    addReturns (first ++ second) = addReturns first ++ addReturns second := List.flatMap_append

/-- A text without a line feed stays as it is. -/
theorem addReturns_eq {text : List Char} (plain : '\n' ∉ text) : addReturns text = text := by
  induction text with
  | nil => rfl
  | cons char rest hypothesis =>
    have here : char ≠ '\n' := fun same => plain (same ▸ List.mem_cons_self)
    rw [addReturns_cons here, hypothesis fun later => plain (List.mem_cons_of_mem _ later)]

theorem withReturns_append (first second : String) :
    withReturns (first ++ second) = withReturns first ++ withReturns second := by
  rw [withReturns, String.toList_append, addReturns_append, String.ofList_append]
  rfl

theorem withReturns_newline :
    withReturns (String.singleton '\n') = String.singleton '\r' ++ String.singleton '\n' := by
  decide +kernel

theorem withReturns_eq {text : String} (plain : '\n' ∉ text.toList) : withReturns text = text := by
  rw [withReturns, addReturns_eq plain, String.ofList_toList]

theorem Unbroken.prefix_addReturns {word : List Char} (unbroken : Unbroken word)
    (text : List Char) : word <+: addReturns text ↔ word <+: text := by
  have white : isBlank '\r' = true := by decide +kernel
  exact unbroken.prefix_changed rfl (fun rest => ⟨'\r', _, white, addReturns_newline rest⟩)
    (fun _ rest plain => addReturns_cons plain rest) text

end Text

/-- A carriage return before each line feed is put into texts that are put together. -/
theorem joins_withReturns : Joins fun content other => other = Text.withReturns content where
  empty := rfl
  append left right := by rw [left, right, Text.withReturns_append]

/-! ### Tokens -/

/-- **Templates without partial tags, each tag of which stands on one line.** -/
def OneLineTags (delimiters : Delimiters) (template : String) : Prop :=
  ∀ tokens, tokenize delimiters template = .ok tokens → ∀ token ∈ tokens, token.isText = false →
    token.kind ≠ .partialTag ∧ '\n' ∉ token.span.slice template.toList

instance (delimiters : Delimiters) (template : String) :
    Decidable (OneLineTags delimiters template) :=
  decidable_of_iff (∀ tokens ∈ (tokenize delimiters template).toOption, ∀ token ∈ tokens,
      token.isText = false → token.kind ≠ .partialTag ∧
        '\n' ∉ token.span.slice template.toList) <| by
    unfold OneLineTags
    cases tokenize delimiters template with
    | ok tokens => simp only [Except.toOption, Option.mem_some_iff, Except.ok.injEq]
    | error fault => simp only [Except.toOption, Option.not_mem_none, reduceCtorEq]

namespace Token

/-- **The tokens of a text beside those of the text with carriage returns**: each token of a line
feed has one of a carriage return before it, and tags stand further on. -/
inductive Returned : List Token → List Token → Prop
  | nil : Returned [] []
  | char {char : Char} {rest others : List Token} (offset place : Int) : char ≠ '\n' →
      Returned rest others →
      Returned (charToken char offset :: rest) (charToken char place :: others)
  | newline {rest others : List Token} (offset place next : Int) : Returned rest others →
      Returned (charToken '\n' offset :: rest)
        (charToken '\r' place :: charToken '\n' next :: others)
  | tag {token : Token} {rest others : List Token} (amount : Int) : token.isText = false →
      token.kind ≠ .partialTag → Returned rest others →
      Returned (token :: rest) (token.shift amount :: others)

end Token

/-- What is found in a text beside what is found in the text with carriage returns. -/
structure Lexed.Returned (lexed other : Lexed) : Prop where
  fault : other.fault = none
  tokens : Token.Returned lexed.tokens other.tokens

variable {delimiters : Delimiters}

/-- **Lexing a text with carriage returns**, which stands further on. -/
theorem returned_lex (unbroken : delimiters.Unbroken) {offset : Int} {passed text : List Char}
    (place : offset = passed.length) (sound : (lex delimiters offset text).fault = none)
    (plain : ∀ token ∈ (lex delimiters offset text).tokens, token.isText = false →
      token.kind ≠ .partialTag ∧ '\n' ∉ token.span.slice (passed ++ text)) (amount : Int) :
    Lexed.Returned (lex delimiters offset text)
      (lex delimiters (offset + amount) (Text.addReturns text)) := by
  induction delimiters, offset, text using lex_induction generalizing passed amount with
  | nil delimiters offset =>
    show Lexed.Returned _ (lex delimiters (offset + amount) [])
    rw [lex_nil, lex_nil]
    exact ⟨rfl, .nil⟩
  | char delimiters offset char rest black hypothesis =>
    have word : Text.Unbroken delimiters.opening.toList := unbroken.opening
    have white : Text.isBlank '\r' = true ∧ Text.isBlank '\n' = true := by decide +kernel
    rw [lex_char black] at sound plain ⊢
    have behind : offset + 1 = ((passed ++ [char]).length : Int) := by
      rw [List.length_append, place]
      rfl
    have later := hypothesis unbroken behind sound fun token member => by
      rw [List.append_assoc]
      exact plain token (List.mem_cons_of_mem _ member)
    by_cases feed : char = '\n'
    · subst feed
      have further : offset + amount + 1 + 1 = offset + 1 + (amount + 1) := by omega
      rw [Text.addReturns_newline, lex_blank unbroken white.1, lex_blank unbroken white.2, further]
      obtain ⟨fault, tokens⟩ := later (amount + 1)
      exact ⟨fault, .newline _ _ _ tokens⟩
    · have blacker := mt (word.prefix_addReturns (char :: rest)).mp black
      have further : offset + amount + 1 = offset + 1 + amount := by omega
      rw [Text.addReturns_cons feed] at blacker ⊢
      rw [lex_char blacker, further]
      obtain ⟨fault, tokens⟩ := later amount
      exact ⟨fault, .char _ _ feed tokens⟩
  | tag delimiters offset text token rest next opens read change hypothesis =>
    obtain ⟨written, rfl, begins, start, stop, other, still⟩ :=
      readTag?_unbroken unbroken opens read
    rw [lex_tag opens read change] at sound plain ⊢
    have covered : token.span.slice (passed ++ (written ++ rest)) = written :=
      Span.slice_append (start.trans place) (by rw [← place]; exact stop)
    have tag : token.isText = false := Bool.eq_false_iff.mpr (mt token.isText_iff.mp other)
    obtain ⟨ordinary, oneLine⟩ := plain token List.mem_cons_self tag
    rw [covered] at oneLine
    have behind : token.span.stop = ((passed ++ written).length : Int) := by
      rw [List.length_append, stop, place]
      rfl
    obtain ⟨fault, tokens⟩ := hypothesis (unbroken.delimitersAfter? change) behind sound
      (fun other member => by
        rw [List.append_assoc]
        exact plain other (List.mem_cons_of_mem _ member)) amount
    have further : readTag? delimiters (offset + amount) (written ++ Text.addReturns rest) =
        some (token.shift amount, Text.addReturns rest) := by
      rw [readTag?_shift, still]
      rfl
    rw [Text.addReturns_append, Text.addReturns_eq oneLine,
      lex_tag (begins.trans (List.prefix_append _ _)) further
        ((token.delimitersAfter?_shift amount delimiters).trans change), Token.shift_span]
    exact ⟨fault, .tag amount tag ordinary tokens⟩
  | unclosed delimiters offset text opens read =>
    rw [lex_unclosed opens read] at sound
    cases sound
  | invalid delimiters offset text token rest opens read change =>
    rw [lex_invalid opens read change] at sound
    cases sound

namespace Token

/-! ### Lines -/

theorem lines_newline {token : Token} (newline : token.isNewline = true) (rest : List Token) :
    lines (token :: rest) = [token] :: lines rest := by
  rw [← List.singleton_append, lines_append fun last member => by
    cases member
    exact newline]
  rfl

/-- A token that is no line feed stands on the line of the next one. -/
theorem lines_cons {token : Token} (plain : token.isNewline = false) {rest line : List Token}
    {others : List (List Token)} (split : lines rest = line :: others) :
    lines (token :: rest) = (token :: line) :: others := by
  obtain ⟨rfl, filled, chains, ended⟩ := List.splitBy_eq_iff.mp split
  have nonempty : line ≠ [] := fun empty => filled (empty ▸ List.mem_cons_self)
  refine List.splitBy_eq_iff.mpr ⟨rfl, ?_, ?_, ?_⟩
  · intro empty
    exact filled (List.mem_cons_of_mem _ ((List.mem_cons.mp empty).resolve_left nofun))
  · obtain ⟨here, later⟩ := List.forall_mem_cons.mp chains
    refine List.forall_mem_cons.mpr ⟨List.isChain_cons.mpr ⟨fun _ _ => ?_, here⟩, later⟩
    rw [plain]
    rfl
  · obtain ⟨apart, later⟩ := List.isChain_cons.mp ended
    refine List.isChain_cons.mpr ⟨fun next member => ?_, later⟩
    obtain ⟨_, some, last⟩ := apart next member
    refine ⟨List.cons_ne_nil _ _, some, ?_⟩
    rwa [List.getLast_cons nonempty]

theorem isNewline_of_ne {char : Char} (plain : char ≠ '\n') (offset : Int) :
    (charToken char offset).isNewline = false :=
  Bool.eq_false_iff.mpr fun newline => plain ((isNewline_charToken char offset).mp newline)

namespace Returned

variable {tokens others : List Token}

theorem append {first second left right : List Token} (returned : Returned first left)
    (later : Returned second right) : Returned (first ++ second) (left ++ right) := by
  induction returned with
  | nil => exact later
  | char offset place plain _ hypothesis => exact .char offset place plain hypothesis
  | newline offset place next _ hypothesis => exact .newline offset place next hypothesis
  | tag amount tag ordinary _ hypothesis => exact .tag amount tag ordinary hypothesis

/-- One more token at the start of a line, on both sides. -/
theorem lines_cons {token image : Token} {rest others : List Token}
    (plain : token.isNewline = false) (same : image.isNewline = false)
    (single : Returned [token] [image])
    (later : List.Forall₂ Returned (lines rest) (lines others)) :
    List.Forall₂ Returned (lines (token :: rest)) (lines (image :: others)) := by
  cases left : lines rest with
  | nil =>
    cases right : lines others with
    | nil =>
      rw [List.splitBy_eq_nil.mp left, List.splitBy_eq_nil.mp right]
      exact .cons single .nil
    | cons _ _ =>
      rw [left, right] at later
      cases later
  | cons line more =>
    cases right : lines others with
    | nil =>
      rw [left, right] at later
      cases later
    | cons other images =>
      rw [left, right] at later
      obtain ⟨here, behind⟩ := List.forall₂_cons.mp later
      rw [Token.lines_cons plain left, Token.lines_cons same right]
      exact .cons (single.append here) behind

/-- **Lines stand beside lines**: a carriage return stands on the line that its line feed ends. -/
theorem lines (returned : Returned tokens others) :
    List.Forall₂ Returned (lines tokens) (lines others) := by
  induction returned with
  | nil => exact .nil
  | char offset place plain _ hypothesis =>
    exact lines_cons (isNewline_of_ne plain _) (isNewline_of_ne plain _)
      (.char offset place plain .nil) hypothesis
  | newline offset place next _ hypothesis =>
    rw [lines_newline rfl, Token.lines_cons (isNewline_of_ne (by decide) _)
      (lines_newline rfl _)]
    exact .cons (.newline offset place next .nil) hypothesis
  | @tag token rest others amount tag ordinary _ hypothesis =>
    have plain : token.isNewline = false := by
      cases token with
      | text _ => cases tag
      | _ => rfl
    exact lines_cons plain ((shift_isNewline amount token).trans plain)
      (.tag amount tag ordinary .nil) hypothesis

/-! ### What is left -/

/-- **A line is standalone beside a standalone line**, as a carriage return is blank. -/
theorem standalone_iff (returned : Returned tokens others) :
    Standalone others ↔ Standalone tokens := by
  have marks : (others.any fun token => !token.isText) = (tokens.any fun token => !token.isText) ∧
      others.any isSolid = tokens.any isSolid := by
    have soft : ∀ place, (charToken '\r' place).isSolid = false := fun place => by
      have white : ("\r".toList.all Text.isBlank) = true := by decide +kernel
      show (!("\r".toList.all Text.isBlank) || false) = false
      rw [white]
      rfl
    induction returned with
    | nil => exact ⟨rfl, rfl⟩
    | char offset place _ _ hypothesis =>
      exact ⟨hypothesis.1, congrArg ((charToken _ offset).isSolid || ·) hypothesis.2⟩
    | newline offset place next _ hypothesis =>
      refine ⟨hypothesis.1, ?_⟩
      rw [List.any_cons, soft, Bool.false_or]
      exact congrArg ((charToken _ offset).isSolid || ·) hypothesis.2
    | tag amount _ _ _ hypothesis =>
      rw [List.any_cons, List.any_cons, List.any_cons, List.any_cons, hypothesis.1, hypothesis.2,
        isSolid, shift_isText, shift_isInk, shift_isInterpolation]
      exact ⟨rfl, rfl⟩
  rw [Token.standalone_iff, Token.standalone_iff, marks.1, marks.2]

theorem filter_tags (returned : Returned tokens others) :
    Returned (tokens.filter fun token => !token.isText)
      (others.filter fun token => !token.isText) := by
  induction returned with
  | nil => exact .nil
  | char _ _ _ _ hypothesis => exact hypothesis
  | newline _ _ _ _ hypothesis => exact hypothesis
  | tag amount tag ordinary _ hypothesis =>
    rw [List.filter_cons_of_pos (by rw [tag]; rfl),
      List.filter_cons_of_pos (by rw [shift_isText, tag]; rfl)]
    exact .tag amount tag ordinary hypothesis

theorem keptOf (returned : Returned tokens others) : Returned (keptOf tokens) (keptOf others) := by
  unfold Token.keptOf
  by_cases standalone : Standalone tokens
  · rw [if_pos standalone, if_pos (returned.standalone_iff.mpr standalone)]
    exact returned.filter_tags
  · rw [if_neg standalone, if_neg (mt returned.standalone_iff.mp standalone)]
    exact returned

/-- **What is left of a template** beside what is left of it with carriage returns. -/
theorem keep (returned : Returned tokens others) :
    Returned (keep (strippedIndexes tokens) tokens) (keep (strippedIndexes others) others) := by
  rw [keep_strippedIndexes, keep_strippedIndexes]
  have alike := returned.lines
  generalize Token.lines tokens = above at alike
  generalize Token.lines others = below at alike
  induction alike with
  | nil => exact .nil
  | cons here _ hypothesis => exact here.keptOf.append hypothesis

end Returned

/-! ### Texts put together -/

/-- A token that is left beside one that is left with carriage returns: a text with a carriage
return before each line feed, or a tag that stands further on. -/
inductive Counterpart : Token → Token → Prop
  | text {span place : Span} : place.value = Text.withReturns span.value →
      Counterpart (text span) (text place)
  | tag {token : Token} (amount : Int) : token.isText = false → token.kind ≠ .partialTag →
      Counterpart token (token.shift amount)

/-- **One more token** before what has been put together, on both sides. -/
theorem Counterpart.squashOnto {token image : Token} {rest others : List Token}
    (here : Counterpart token image) (later : List.Forall₂ Counterpart rest others) :
    List.Forall₂ Counterpart (squashOnto token rest) (squashOnto image others) := by
  have tags : ∀ {token : Token} {rest : List Token}, token.isText = false →
      Token.squashOnto token rest = token :: rest := fun {token rest} tag =>
    squashOnto_eq_cons fun text => by
      rw [tag] at text
      cases text
  cases here with
  | tag amount tag ordinary =>
    rw [tags tag, tags ((shift_isText amount token).trans tag)]
    exact .cons (.tag amount tag ordinary) later
  | @text span place same =>
    cases later with
    | nil => exact .cons (.text same) .nil
    | @cons next image rest others here later =>
      cases here with
      | @text second further alike =>
        refine .cons (.text ?_) later
        show place.value ++ further.value = Text.withReturns (span.value ++ second.value)
        rw [same, alike, Text.withReturns_append]
      | tag amount tag ordinary =>
        have apart := (shift_isText amount next).trans tag
        rw [squashOnto_eq_cons fun _ other member => by cases member; exact tag,
          squashOnto_eq_cons fun _ other member => by cases member; exact apart]
        exact .cons (.text same) (.cons (.tag amount tag ordinary) later)

/-- **Texts put together** beside texts put together. -/
theorem Returned.squash {tokens others : List Token} (returned : Returned tokens others) :
    List.Forall₂ Counterpart (squash tokens) (squash others) := by
  induction returned with
  | nil => exact .nil
  | @char char _ _ _ _ plain _ hypothesis =>
    rw [squash_cons, squash_cons]
    refine Counterpart.squashOnto (.text (Text.withReturns_eq ?_).symm) hypothesis
    rw [String.toList_singleton, List.mem_singleton]
    exact plain.symm
  | newline offset place next _ hypothesis =>
    rw [squash_cons, squash_cons, squash_cons]
    unfold charToken
    rw [squashOnto_squashOnto]
    exact Counterpart.squashOnto (.text Text.withReturns_newline.symm) hypothesis
  | tag amount tag ordinary _ hypothesis =>
    rw [squash_cons, squash_cons]
    exact Counterpart.squashOnto (.tag amount tag ordinary) hypothesis

/-! ### Sections -/

/-- A tag that is no partial tag beside one with the same content. -/
def SameName (token image : Token) : Prop :=
  token.kind ≠ .partialTag ∧ image.span.value = token.span.value

theorem Counterpart.sort_eq {token image : Token} (here : Counterpart token image) :
    image.isSectionMark = token.isSectionMark ∧ image.isSilent = token.isSilent := by
  cases here with
  | text _ => exact ⟨rfl, rfl⟩
  | tag _ _ _ => cases token <;> exact ⟨rfl, rfl⟩

theorem exists_append_of_forall₂ {first second others : List Token}
    (alike : List.Forall₂ Counterpart (first ++ second) others) :
    ∃ left right, others = left ++ right ∧ List.Forall₂ Counterpart first left ∧
      List.Forall₂ Counterpart second right := by
  induction first generalizing others with
  | nil => exact ⟨[], others, rfl, .nil, alike⟩
  | cons token rest hypothesis =>
    obtain ⟨image, later, here, behind, rfl⟩ := List.forall₂_cons_left_iff.mp alike
    obtain ⟨left, right, rfl, former, latter⟩ := hypothesis behind
    exact ⟨image :: left, right, rfl, .cons here former, latter⟩

/-- **Tokens that are left have trees that are alike**, up to the carriage returns in texts. -/
theorem Nests.exists_returned {flat forest others : List Token} (nests : Nests flat forest)
    (alike : List.Forall₂ Counterpart flat others) :
    ∃ images, Nests others images ∧
      AllAlikeBy (fun content other => other = Text.withReturns content) SameName forest
        images := by
  induction nests generalizing others with
  | nil =>
    cases alike
    exact ⟨[], .nil, .nil⟩
  | silent leaf silent _ hypothesis =>
    obtain ⟨image, later, here, behind, rfl⟩ := List.forall₂_cons_left_iff.mp alike
    obtain ⟨images, nested, both⟩ := hypothesis behind
    exact ⟨images, .silent (here.sort_eq.1.trans leaf) (here.sort_eq.2.trans silent) nested, both⟩
  | @leaf token rest forest leaf heard _ hypothesis =>
    obtain ⟨image, later, here, behind, rfl⟩ := List.forall₂_cons_left_iff.mp alike
    obtain ⟨images, nested, both⟩ := hypothesis behind
    refine ⟨image :: images, .leaf (here.sort_eq.1.trans leaf) (here.sort_eq.2.trans heard) nested,
      .cons ?_ both⟩
    cases here with
    | text same => exact .text same
    | tag amount tag ordinary =>
      cases token with
      | text _ => cases tag
      | interpolation escaped span => exact .interpolation ⟨ordinary, rfl⟩
      | block _ _ _ _ => cases leaf
      | close _ => cases leaf
      | partialTag _ _ => exact (ordinary rfl).elim
      | _ => cases heard
  | @«section» inverted _ _ _ _ _ _ _ _ value _ _ _ inside hypothesis =>
    obtain ⟨image, later, here, behind, rfl⟩ := List.forall₂_cons_left_iff.mp alike
    obtain ⟨between, further, rfl, first, second⟩ := exists_append_of_forall₂ behind
    obtain ⟨mark, last, ended, final, rfl⟩ := List.forall₂_cons_left_iff.mp second
    obtain ⟨parts, nested, alikeParts⟩ := inside first
    obtain ⟨images, following, both⟩ := hypothesis final
    cases here with
    | tag amount _ ordinary =>
      cases ended with
      | tag distance _ _ =>
        refine ⟨_, .section value nested.balanced nested following,
          .cons (.block ⟨?_, rfl⟩ alikeParts) both⟩
        cases inverted <;> exact ordinary

/-! ### Templates -/

theorem annotate_eq {line : HostLine} {tokens : List Token}
    (ordinary : ∀ token ∈ tokens, token.kind ≠ .partialTag) : annotate line tokens = tokens := by
  induction tokens generalizing line with
  | nil => rfl
  | cons token rest hypothesis =>
    obtain ⟨here, later⟩ := List.forall_mem_cons.mp ordinary
    rw [annotate, hypothesis later]
    cases token with
    | partialTag _ _ => exact (here rfl).elim
    | _ => rfl

/-- Tokens hold no partial tag if none is among them with their lines. -/
theorem ordinary_of_annotate {line : HostLine} {tokens : List Token}
    (ordinary : ∀ token ∈ annotate line tokens, token.kind ≠ .partialTag) :
    ∀ token ∈ tokens, token.kind ≠ .partialTag := by
  induction tokens generalizing line with
  | nil => exact nofun
  | cons token rest hypothesis =>
    obtain ⟨here, later⟩ := List.forall_mem_cons.mp ordinary
    rw [onLine_kind] at here
    exact List.forall_mem_cons.mpr ⟨here, hypothesis later⟩

/-- The tokens with carriage returns hold no partial tag either. -/
theorem Returned.ordinary {tokens others : List Token} (returned : Returned tokens others) :
    ∀ token ∈ others, token.kind ≠ .partialTag := by
  induction returned with
  | nil => exact nofun
  | char _ _ _ _ hypothesis => exact List.forall_mem_cons.mpr ⟨nofun, hypothesis⟩
  | newline _ _ _ _ hypothesis =>
    exact List.forall_mem_cons.mpr ⟨nofun, List.forall_mem_cons.mpr ⟨nofun, hypothesis⟩⟩
  | tag amount _ ordinary _ hypothesis =>
    exact List.forall_mem_cons.mpr ⟨(shift_kind amount _).symm ▸ ordinary, hypothesis⟩

/-- Sections stay balanced. -/
theorem Returned.balanced {tokens others : List Token} (returned : Returned tokens others)
    (balanced : Balanced tokens) : Balanced others := by
  obtain ⟨forest, nests⟩ := ((balanced_congr (filter_squash tokens)).mpr balanced).exists_nests
  obtain ⟨images, nested, _⟩ := nests.exists_returned returned.squash
  exact (balanced_congr (filter_squash others)).mp nested.balanced

end Token

open Token

/-- **The tokens of a template with carriage returns.** -/
theorem tokenize_withReturns (unbroken : delimiters.Unbroken) {template : String}
    (plain : OneLineTags delimiters template) {tokens : List Token}
    (read : tokenize delimiters template = .ok tokens) :
    ∃ others, tokenize delimiters (Text.withReturns template) = .ok others ∧
      Returned tokens others := by
  have tags := plain tokens read
  obtain ⟨sound, balanced, same⟩ := tokenize_eq_ok_iff.mp read
  have ordinary : ∀ token ∈ tokens, token.kind ≠ .partialTag := fun token member => by
    by_cases text : token.isText = true
    · rw [token.isText_iff.mp text]
      nofun
    · exact (tags token member (Bool.eq_false_iff.mpr text)).1
  rw [annotate_eq (ordinary_of_annotate (same ▸ ordinary))] at same
  subst same
  obtain ⟨fault, returned⟩ := @returned_lex _ unbroken 0 [] _ rfl sound tags 0
  rw [Int.add_zero] at fault returned
  refine ⟨_, tokenize_eq_ok_iff.mpr ?_, returned⟩
  rw [Text.toList_withReturns]
  exact ⟨fault, returned.balanced balanced, (annotate_eq returned.ordinary).symm⟩

/-- **The tree of a template with carriage returns** is alike, and each of its texts has a carriage
return before each line feed. -/
theorem parse_withReturns (unbroken : delimiters.Unbroken) {template : String}
    (plain : OneLineTags delimiters template) {tree : List Token}
    (found : parse delimiters template = .ok tree) :
    ∃ image, parse delimiters (Text.withReturns template) = .ok image ∧
      AllAlikeBy (fun content other => other = Text.withReturns content) SameName tree image := by
  obtain ⟨tokens, read, rfl⟩ := parse_eq_ok_iff.mp found
  obtain ⟨others, further, returned⟩ := tokenize_withReturns unbroken plain read
  obtain ⟨images, nested, alike⟩ :=
    (nests_of_tokenize read).exists_returned returned.keep.squash
  rw [nested.eq (nests_of_tokenize further)] at alike
  exact ⟨_, parse_eq_ok_iff.mpr ⟨others, further, rfl⟩, alike⟩

end Mustache
