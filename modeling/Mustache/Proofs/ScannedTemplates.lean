import Mustache.Proofs.Progress
import Mustache.Proofs.Scanning

/-!
**A template is read in a scanner's steps.**

The reader of templates splits lists of characters. The same turns are taken by one scanner that
walks the template from its start to its end: it passes over plain text, the opening delimiter, the
sigil, blanks, the content and the closing delimiter, and its place is the offset of what it finds.
So what is known of a scanner after any steps is known of every place that reading comes to.

* `Scanner.LeadsTo`: what some steps of a scanner come to.
* `Scanner.scanContent`, `Scanner.scanTag`: the steps over a tag.
* `exists_content_of_scanTag`, `scanTag_cases`: **one tag** is read by them.
* `Reading.scanTurn`, `turn_ofScanner`: **one turn**.
* `exists_scanner_of_after`: **the main statement**, for any number of turns.
-/

namespace Mustache

open Lexer

namespace Pattern

variable {pattern : Pattern} {text : List Char}

theorem scan_blanks (text : List Char) :
    blanks.scan text = (Text.blankRun text, Text.afterBlanks text) := by
  have size : blanks.matchLength? text = some (Text.blankRun text).length := rfl
  have begins : Text.blankRun text <+: text :=
    ⟨Text.afterBlanks text, Text.blankRun_append_afterBlanks text⟩
  have rest : (Text.blankRun text ++ Text.afterBlanks text).drop (Text.blankRun text).length =
      Text.afterBlanks text := List.drop_left
  rw [Text.blankRun_append_afterBlanks] at rest
  rw [scan_eq size, ← List.prefix_iff_eq_take.mp begins, rest]

/-- A pattern with no empty word answers nothing only where it does not match. -/
theorem scan_eq_nil_iff (some : ∀ word, pattern.Word word → word ≠ []) :
    (pattern.scan text).1 = [] ↔ pattern.matchLength? text = none := by
  rw [← Option.not_isSome_iff_eq_none, ← hits, hits_iff]
  rcases pattern.scan_cases text with ⟨word, rest, matched, cut⟩ | ⟨miss, cut⟩
  · rw [cut]
    exact iff_of_false (some word matched.isWord) fun miss =>
      miss ⟨word, matched.isWord, matched.begins⟩
  · rw [cut]
    exact iff_of_true rfl miss

/-- A search stops at a match or at the end. -/
theorem scanUntil_of_missed (missed : pattern.matchLength? (pattern.scanUntil text).2 = none) :
    (pattern.scanUntil text).2 = [] := by
  refine (pattern.scanUntil_spec text).2.resolve_right fun hit => ?_
  rw [hits, missed] at hit
  cases hit

end Pattern

variable {delimiters : Delimiters}

theorem Delimiters.ne_of_word_opening {word : List Char}
    (isWord : delimiters.openingPattern.Word word) : word ≠ [] := by
  cases isWord with
  | opening _ => exact List.append_ne_nil_of_left_ne_nil delimiters.opening_toList_ne _

theorem Delimiters.ne_of_word_closing {word : List Char}
    (isWord : delimiters.closingPattern.Word word) : word ≠ [] := by
  cases isWord with
  | closing _ => exact List.append_ne_nil_of_right_ne_nil _ delimiters.closing_toList_ne

/-- **A tag that is not closed is read to the end of the text**: nothing is left behind its content,
which is why the fault stands there. -/
theorem Lexer.readContent_of_missed {sigil : Option Char} {text : List Char}
    (missed : delimiters.closingPattern.matchLength? (readContent delimiters sigil text).2 = none) :
    (readContent delimiters sigil text).2 = [] := by
  unfold readContent at missed ⊢
  split at missed <;> exact Pattern.scanUntil_of_missed missed

namespace Scanner

/-! ### Steps -/

/-- **Some steps lead from a scanner to another.** -/
def LeadsTo (scanner next : Scanner) : Prop := ∃ steps, (scanner.run steps).2 = next

variable {scanner next last : Scanner}

theorem LeadsTo.refl (scanner : Scanner) : scanner.LeadsTo scanner := ⟨[], rfl⟩

theorem LeadsTo.trans (first : scanner.LeadsTo next) (second : next.LeadsTo last) :
    scanner.LeadsTo last := by
  obtain ⟨steps, rfl⟩ := first
  obtain ⟨more, rfl⟩ := second
  refine ⟨steps ++ more, ?_⟩
  induction steps generalizing scanner with
  | nil => rfl
  | cons step rest hypothesis => exact hypothesis

theorem LeadsTo.scan (leads : scanner.LeadsTo next) (pattern : Pattern) :
    scanner.LeadsTo (next.scan pattern).2 := leads.trans ⟨[.scan pattern], rfl⟩

theorem LeadsTo.scanUntil (leads : scanner.LeadsTo next) (pattern : Pattern) :
    scanner.LeadsTo (next.scanUntil pattern).2 := leads.trans ⟨[.scanUntil pattern], rfl⟩

/-! ### One tag -/

/-- **The content of a tag** by its sigil, and the scanner before the closing delimiter. -/
def scanContent (delimiters : Delimiters) (sigil : Option Char) (scanner : Scanner) :
    String × Scanner :=
  match sigil with
  | some '=' =>
    let (content, found) := scanner.scanUntil .equalsSign
    (content, ((found.scan .equalsSign).2.scanUntil delimiters.closingPattern).2)
  | some '\x7b' =>
    let (content, found) := scanner.scanUntil delimiters.closingBracePattern
    (content, ((found.scan .closingBrace).2.scanUntil delimiters.closingPattern).2)
  | _ => scanner.scanUntil delimiters.closingPattern

/-- **One tag**, and the scanner behind it; if the closing delimiter does not follow, the place
where it is missed. -/
def scanTag (delimiters : Delimiters) (scanner : Scanner) : Except Nat (Token × Scanner) :=
  let (_, inside) := scanner.scan delimiters.openingPattern
  let (sigil, named) := inside.scan .sigil
  let (_, before) := named.scan .blanks
  let (content, found) := before.scanContent delimiters sigil.toList.head?
  let (closing, next) := found.scan delimiters.closingPattern
  if closing = "" then .error next.position
  else .ok (.ofKind (kindOf sigil.toList.head?) ⟨content, scanner.position, next.position⟩, next)

theorem readContent_scanner (delimiters : Delimiters) (sigil : Option Char) (scanner : Scanner) :
    readContent delimiters sigil scanner.remaining =
      ((scanner.scanContent delimiters sigil).1.toList,
        (scanner.scanContent delimiters sigil).2.remaining) := by
  unfold readContent scanContent
  split <;> simp only [scanUntil, scan, pass, String.toList_ofList]

theorem readSigil_scanner (scanner : Scanner) :
    readSigil scanner.remaining =
      ((scanner.scan .sigil).1.toList.head?, (scanner.scan .sigil).2.remaining) := by
  unfold readSigil scan pass
  rw [String.toList_ofList]
  split <;> rename_i cut <;> rw [cut] <;> rfl

theorem LeadsTo.scanContent (leads : scanner.LeadsTo next) (delimiters : Delimiters)
    (sigil : Option Char) :
    scanner.LeadsTo (next.scanContent delimiters sigil).2 := by
  unfold Scanner.scanContent
  split
  · exact ((leads.scanUntil _).scan _).scanUntil _
  · exact ((leads.scanUntil _).scan _).scanUntil _
  · exact leads.scanUntil _

/-- Steps lead on through a text, and what is passed and what remains stay the whole of it. -/
theorem LeadsTo.place (leads : scanner.LeadsTo next) : scanner.position ≤ next.position ∧
    next.position + next.remaining.length = scanner.position + scanner.remaining.length := by
  obtain ⟨steps, rfl⟩ := leads
  have advances := advances_run scanner steps
  refine ⟨advances.position_le, ?_⟩
  rw [position, position, advances.passed, advances.remaining, List.length_append,
    List.length_append]
  omega

/-- The text after a closing delimiter, and whether there is one. -/
theorem scan_closing_cases (delimiters : Delimiters) (scanner : Scanner) :
    (delimiters.closingPattern.matchLength? scanner.remaining = none ∧
        scanner.scan delimiters.closingPattern = ("", scanner)) ∨
      ∃ size, delimiters.closingPattern.matchLength? scanner.remaining = some size ∧
        (scanner.scan delimiters.closingPattern).1 ≠ "" ∧
        (scanner.scan delimiters.closingPattern).2.remaining = scanner.remaining.drop size := by
  cases found : delimiters.closingPattern.matchLength? scanner.remaining with
  | none =>
    refine .inl ⟨rfl, ?_⟩
    rw [scan, Pattern.scan, found, Option.getD_none, List.splitAt_eq, List.take_zero,
      List.drop_zero, pass, List.append_nil]
  | some size =>
    refine .inr ⟨size, rfl, fun empty => ?_, ?_⟩
    · have nothing := (Pattern.scan_eq_nil_iff fun _ => Delimiters.ne_of_word_closing).mp
        (String.ofList_eq_empty_iff.mp empty)
      rw [found] at nothing
      cases nothing
    · rw [scan, Pattern.scan_eq found, pass]

/-- **Up to the closing delimiter** the reader and the scanner come to the same content and to the
same place, which is the end of the text if there is no such delimiter. -/
theorem exists_content_of_scanTag (delimiters : Delimiters) (scanner : Scanner) :
    ∃ sigil content found, scanner.LeadsTo found ∧
      (delimiters.closingPattern.matchLength? found.remaining = none → found.remaining = []) ∧
      readTag? delimiters scanner.position scanner.remaining =
        (delimiters.closingPattern.matchLength? found.remaining).map (fun size =>
          (.ofKind (kindOf sigil) ⟨content, scanner.position,
            scanner.position + Int.ofNat (scanner.remaining.length -
              (found.remaining.drop size).length)⟩, found.remaining.drop size)) ∧
      scanner.scanTag delimiters =
        if (found.scan delimiters.closingPattern).1 = "" then
          .error (found.scan delimiters.closingPattern).2.position
        else .ok (.ofKind (kindOf sigil) ⟨content, scanner.position,
          (found.scan delimiters.closingPattern).2.position⟩,
            (found.scan delimiters.closingPattern).2) := by
  obtain ⟨inside, opened⟩ : ∃ inside, (scanner.scan delimiters.openingPattern).2 = inside :=
    ⟨_, rfl⟩
  obtain ⟨sigil, named, sort⟩ : ∃ sigil named, inside.scan .sigil = (sigil, named) := ⟨_, _, rfl⟩
  obtain ⟨content, found, inner⟩ : ∃ content found,
      (named.scan .blanks).2.scanContent delimiters sigil.toList.head? = (content, found) :=
    ⟨_, _, rfl⟩
  have leads : scanner.LeadsTo found := by
    have far := (((LeadsTo.refl scanner).scan delimiters.openingPattern).scan .sigil).scan .blanks
    rw [opened, sort] at far
    have more := far.scanContent delimiters sigil.toList.head?
    rwa [inner] at more
  have sorted := readSigil_scanner inside
  have read := readContent_scanner delimiters sigil.toList.head? (named.scan .blanks).2
  have blanks : (named.scan .blanks).2.remaining = Text.afterBlanks named.remaining :=
    congrArg Prod.snd (Pattern.scan_blanks named.remaining)
  rw [sort] at sorted
  rw [inner, blanks] at read
  refine ⟨sigil.toList.head?, content, found, leads, fun missed => ?_, ?_, ?_⟩
  · have behind : (readContent delimiters sigil.toList.head?
        (Text.afterBlanks named.remaining)).2 = found.remaining := congrArg Prod.snd read
    rw [← behind] at missed ⊢
    exact readContent_of_missed missed
  · have first : (delimiters.openingPattern.scan scanner.remaining).2 = inside.remaining :=
      congrArg remaining opened
    unfold readTag?
    cases closed : delimiters.closingPattern.matchLength? found.remaining <;>
      simp only [first, sorted, read, closed, String.ofList_toList, Option.map]
  · unfold scanTag
    simp only [opened, sort, inner]

/-- **One tag is read in a scanner's steps**: at the place of the scanner, with what follows it; and
where it is not closed, the scanner has come to the end of the text. -/
theorem scanTag_cases (delimiters : Delimiters) (scanner : Scanner) :
    (readTag? delimiters scanner.position scanner.remaining = none ∧
        scanner.scanTag delimiters = .error (scanner.position + scanner.remaining.length)) ∨
      ∃ token next, readTag? delimiters scanner.position scanner.remaining =
          some (token, next.remaining) ∧
        scanner.scanTag delimiters = .ok (token, next) ∧ token.span.stop = next.position ∧
        scanner.LeadsTo next := by
  obtain ⟨sigil, content, found, leads, ended, read, scanned⟩ :=
    exists_content_of_scanTag delimiters scanner
  rw [read, scanned]
  rcases found.scan_closing_cases delimiters with ⟨missed, stays⟩ | ⟨size, closed, some, rest⟩
  · obtain ⟨_, place⟩ := leads.place
    rw [ended missed] at place
    rw [missed, stays, ← place]
    exact .inl ⟨rfl, rfl⟩
  · obtain ⟨further, place⟩ := (leads.scan delimiters.closingPattern).place
    rw [rest] at place
    have stop : (scanner.position : Int) + Int.ofNat (scanner.remaining.length -
        (found.remaining.drop size).length) =
          (found.scan delimiters.closingPattern).2.position := by
      simp only [Int.ofNat_eq_natCast]
      omega
    rw [closed, if_neg some, Option.map_some]
    simp only [stop]
    refine .inr ⟨_, _, ?_, rfl, ?_, leads.scan delimiters.closingPattern⟩
    · rw [rest]
    · rw [span_ofKind]

end Scanner

namespace Reading

/-! ### One turn -/

/-- The place in a template where a scanner stands. -/
def Cursor.ofScanner (reading : Reading) (scanner : Scanner) : Cursor :=
  ⟨reading, scanner.position, scanner.remaining⟩

/-- **One turn in a scanner's steps**: the plain text up to the next opening delimiter, and the tag
there; reading ends where no delimiter opens. -/
def scanTurn (reading : Reading) (scanner : Scanner) : Turn :=
  let (plain, found) := scanner.scanUntil reading.delimiters.openingPattern
  let here := (textTokens scanner.position plain.toList).foldl push reading
  let (opening, _) := found.scan reading.delimiters.openingPattern
  if opening = "" then .leave (.ok here)
  else
    match found.scanTag reading.delimiters with
    | .error place => .leave (.error (.unclosedTag, place))
    | .ok (token, next) =>
      match here.pushTag token with
      | .error fault => .leave (.error fault)
      | .ok after => .goOn (.ofScanner after next)

variable {reading : Reading} {scanner : Scanner}

/-- An opening delimiter is answered wherever there is text left behind the search for it. -/
theorem scan_opening_iff (delimiters : Delimiters) (scanner : Scanner) :
    let found := (scanner.scanUntil delimiters.openingPattern).2
    (found.scan delimiters.openingPattern).1 = "" ↔ found.remaining.isEmpty = true := by
  intro found
  have answered : (found.scan delimiters.openingPattern).1 = "" ↔
      delimiters.openingPattern.matchLength? found.remaining = none :=
    String.ofList_eq_empty_iff.trans
      (Pattern.scan_eq_nil_iff fun _ => Delimiters.ne_of_word_opening)
  rw [answered, List.isEmpty_iff]
  refine ⟨Pattern.scanUntil_of_missed, fun ended => ?_⟩
  rw [ended]
  exact Option.not_isSome_iff_eq_none.mp fun hit =>
    delimiters.opening_toList_ne (List.prefix_nil.mp (Pattern.hits_opening.mp hit))

/-- **A turn is taken in a scanner's steps.** -/
theorem turn_ofScanner (reading : Reading) (scanner : Scanner) :
    (Cursor.ofScanner reading scanner).turn = reading.scanTurn scanner := by
  obtain ⟨found, search⟩ : ∃ found,
      (scanner.scanUntil reading.delimiters.openingPattern).2 = found := ⟨_, rfl⟩
  have plain : (scanner.scanUntil reading.delimiters.openingPattern).1.toList =
      (Cursor.ofScanner reading scanner).parts.1 := String.toList_ofList
  have behind : (Cursor.ofScanner reading scanner).parts.2 = found.remaining :=
    congrArg Scanner.remaining search
  have place : (scanner.position : Int) +
      Int.ofNat (Cursor.ofScanner reading scanner).parts.1.length = found.position := by
    rw [← search]
    exact congrArg Int.ofNat List.length_append.symm
  have leads : scanner.LeadsTo found := search ▸ (Scanner.LeadsTo.refl scanner).scanUntil _
  have ended := scan_opening_iff reading.delimiters scanner
  unfold Cursor.turn scanTurn
  simp only [search, plain, behind] at ended ⊢
  by_cases last : found.remaining.isEmpty = true
  · rw [if_pos last, if_pos (ended.mpr last)]
    rfl
  · rw [if_neg last, if_neg fun none => last (ended.mp none)]
    have tag : (Cursor.ofScanner reading scanner).tag? =
        readTag? reading.delimiters found.position found.remaining := by
      rw [Cursor.tag?, ← behind, ← place]
      rfl
    rw [tag]
    rcases found.scanTag_cases reading.delimiters with
      ⟨missed, scanned⟩ | ⟨token, next, read, scanned, stop, _⟩
    · have whole : (scanner.position : Int) + Int.ofNat scanner.remaining.length =
          (found.position + found.remaining.length : Nat) :=
        congrArg Int.ofNat leads.place.2.symm
      rw [missed, scanned]
      exact congrArg (fun place => Turn.leave (.error (.unclosedTag, place))) whole
    · rw [read, scanned]
      simp only [stop]
      rfl

/-- A turn that is not the last one leads the scanner on. -/
theorem leadsTo_of_scanTurn {next : Cursor} (goes : reading.scanTurn scanner = .goOn next) :
    ∃ after, next = .ofScanner next.reading after ∧ scanner.LeadsTo after := by
  have leads := (Scanner.LeadsTo.refl scanner).scanUntil reading.delimiters.openingPattern
  unfold scanTurn at goes
  simp only at goes
  split at goes
  · cases goes
  · rcases (scanner.scanUntil reading.delimiters.openingPattern).2.scanTag_cases
      reading.delimiters with ⟨_, scanned⟩ | ⟨token, after, _, scanned, _, further⟩
    · rw [scanned] at goes
      cases goes
    · rw [scanned] at goes
      simp only at goes
      split at goes
      · cases goes
      · cases goes
        exact ⟨after, rfl, leads.trans further⟩

/-! ### Any number of turns -/

/-- **A template is read in a scanner's steps.** From every place that reading comes to, by any
number of turns and through any changes of the delimiters, the next turn is the one that a scanner
takes which has been led there from the start of the template. -/
theorem exists_scanner_of_after {delimiters : Delimiters} {template : String} {count : Nat}
    {cursor : Cursor} (after : (Cursor.start delimiters template).After count cursor) :
    ∃ scanner, (Scanner.ofString template).LeadsTo scanner ∧
      cursor = .ofScanner cursor.reading scanner ∧
      cursor.turn = cursor.reading.scanTurn scanner := by
  have standing : ∃ scanner, (Scanner.ofString template).LeadsTo scanner ∧
      cursor = .ofScanner cursor.reading scanner := by
    induction after with
    | start => exact ⟨_, .refl _, rfl⟩
    | turn _ goes hypothesis =>
      obtain ⟨scanner, leads, here⟩ := hypothesis
      rw [here, turn_ofScanner] at goes
      obtain ⟨next, there, further⟩ := leadsTo_of_scanTurn goes
      exact ⟨next, leads.trans further, there⟩
  obtain ⟨scanner, leads, here⟩ := standing
  refine ⟨scanner, leads, here, ?_⟩
  conv_lhs => rw [here]
  exact turn_ofScanner cursor.reading scanner

end Reading

end Mustache
