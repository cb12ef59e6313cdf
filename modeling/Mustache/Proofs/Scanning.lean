import Mathlib.Order.Bounds.Defs
import Mustache.Proofs.Locality
import Mustache.Template.Scanner

/-!
**A scanner neither loses nor rereads text.**

A pattern stands for certain texts, its words, and of those that a text starts with it matches the
longest. A scanner passes over such a match, or over everything before the next place that has one.
Whatever steps it takes, what it has answered makes up the text before its place, and the rest is
still to come.

* `Pattern.Word`, `Pattern.Begins`, `Pattern.Matched`: the words of a pattern, the texts that start
  with one, and the longest there.
* `exists_matched`, `hits_iff`, `scan_cases`: a pattern matches just that.
* `Scanner.Step`, `Scanner.run`: the steps of a scanner, one after the other.
* `Scanner.Advances`: what **one step** leaves, and so what a run leaves.
* `Scanner.run_reads`: **the main statement.**
-/

namespace Mustache

/-- The blanks that a text starts with are no more than its leading blanks. -/
theorem Text.Blank.length_le {run text : List Char} (blank : Text.Blank run)
    (begins : run <+: text) : run.length ≤ (Text.blankRun text).length := by
  obtain ⟨rest, rfl⟩ := begins
  unfold Text.blankRun
  rw [List.takeWhile_append_of_pos blank, List.length_append]
  exact Nat.le_add_right _ _

namespace Pattern

/-! ### The words of a pattern -/

/-- **The texts that a pattern stands for.** -/
inductive Word : Pattern → List Char → Prop
  | blanks {run : List Char} : Text.Blank run → Word blanks run
  | blankRun {run : List Char} : Text.Blank run → run ≠ [] → Word blankRun run
  | nonBlank {char : Char} : Text.isBlank char = false → Word nonBlank [char]
  | sigil {char : Char} : char ∈ sigils → Word sigil [char]
  | literal {content : List Char} : Word (literal content) content
  | opening {content run : List Char} : Text.Blank run → Word (opening content) (content ++ run)
  | closing {content run : List Char} : Text.Blank run → Word (closing content) (run ++ content)

/-- A text starts with a word of the pattern. -/
def Begins (pattern : Pattern) (text : List Char) : Prop :=
  ∃ word, pattern.Word word ∧ word <+: text

/-- **What a pattern matches in a text**: the longest of its words that the text starts with. -/
structure Matched (pattern : Pattern) (text word : List Char) : Prop where
  isWord : pattern.Word word
  begins : word <+: text
  longest : ∀ other, pattern.Word other → other <+: text → other.length ≤ word.length

variable {pattern : Pattern} {text : List Char}

/-- The leading blanks of a text are matched by a pattern all of whose words are blank. -/
theorem matched_blankRun (word : pattern.Word (Text.blankRun text))
    (blank : ∀ other, pattern.Word other → Text.Blank other) :
    pattern.Matched text (Text.blankRun text) where
  isWord := word
  begins := ⟨Text.afterBlanks text, Text.blankRun_append_afterBlanks text⟩
  longest other isWord begins := (blank other isWord).length_le begins

/-- The first character of a text is matched by a pattern all of whose words are characters. -/
theorem matched_char {char : Char} (word : pattern.Word [char])
    (single : ∀ other, pattern.Word other → other.length = 1) (rest : List Char) :
    pattern.Matched (char :: rest) [char] where
  isWord := word
  begins := ⟨rest, rfl⟩
  longest other isWord _ := Nat.le_of_eq (single other isWord)

theorem matched_opening (content rest : List Char) :
    (opening content).Matched (content ++ rest) (content ++ Text.blankRun rest) where
  isWord := .opening (Text.blank_blankRun rest)
  begins := (List.prefix_append_right_inj content).mpr
    ⟨Text.afterBlanks rest, Text.blankRun_append_afterBlanks rest⟩
  longest other isWord begins := by
    cases isWord with
    | opening blank =>
      have inside := blank.length_le ((List.prefix_append_right_inj content).mp begins)
      rw [List.length_append, List.length_append]
      exact Nat.add_le_add_left inside _

/-- Of several numbers of blanks before a content the largest makes the match. -/
theorem exists_matched_closing {content : List Char} {count : Nat}
    (found : blanksBefore? content text = some count) :
    ∃ word, (closing content).Matched text word ∧ word.length = count + content.length := by
  obtain ⟨blanks, rest, same, blank, rfl⟩ := blanksBefore?_spec found
  refine ⟨blanks ++ content, ⟨.closing blank, ⟨rest, ?_⟩, ?_⟩, List.length_append⟩
  · rw [same, List.append_assoc]
  · intro other isWord begins
    cases isWord with
    | closing white =>
      obtain ⟨later, cut⟩ := begins
      rw [List.append_assoc] at cut
      have most := blanksBefore?_max found cut.symm white
      rw [List.length_append, List.length_append]
      exact Nat.add_le_add_right most _

/-- **A pattern matches the longest of its words.** -/
theorem exists_matched {size : Nat} (found : pattern.matchLength? text = some size) :
    ∃ word, pattern.Matched text word ∧ word.length = size := by
  cases pattern with
  | blanks =>
    cases found
    refine ⟨_, matched_blankRun (.blanks (Text.blank_blankRun text)) fun other isWord => ?_, rfl⟩
    cases isWord with
    | blanks blank => exact blank
  | blankRun =>
    change (if blankLength text = 0 then none else some (blankLength text)) = some size at found
    split at found
    · cases found
    · rename_i positive
      cases found
      have nonempty : Text.blankRun text ≠ [] := fun empty =>
        positive (congrArg List.length empty)
      refine ⟨_, matched_blankRun (.blankRun (Text.blank_blankRun text) nonempty)
        fun other isWord => ?_, rfl⟩
      cases isWord with
      | blankRun blank _ => exact blank
  | nonBlank =>
    cases text with
    | nil => cases found
    | cons char rest =>
      change (if Text.isBlank char = true then none else some 1) = some size at found
      split at found
      · cases found
      · rename_i black
        cases found
        refine ⟨[char], matched_char (.nonBlank (Bool.eq_false_iff.mpr black))
          (fun other isWord => ?_) rest, rfl⟩
        cases isWord with
        | nonBlank _ => rfl
  | sigil =>
    cases text with
    | nil => cases found
    | cons char rest =>
      change (if sigils.contains char = true then some 1 else none) = some size at found
      split at found
      · rename_i member
        cases found
        refine ⟨[char], matched_char (.sigil (List.contains_iff_mem.mp member))
          (fun other isWord => ?_) rest, rfl⟩
        cases isWord with
        | sigil _ => rfl
      · cases found
  | literal content =>
    change (if content.isPrefixOf text = true then some content.length else none) = some size
      at found
    split at found
    · rename_i begins
      cases found
      refine ⟨content, ⟨.literal, List.isPrefixOf_iff_prefix.mp begins, fun other isWord _ => ?_⟩,
        rfl⟩
      cases isWord with
      | literal => exact Nat.le_refl _
    · cases found
  | opening content =>
    obtain ⟨rest, rfl⟩ := hits_opening.mp (Option.isSome_iff_exists.mpr ⟨size, found⟩)
    rw [matchLength?_opening] at found
    cases found
    exact ⟨_, matched_opening content rest, List.length_append⟩
  | closing content =>
    rw [matchLength?_closing] at found
    obtain ⟨count, behind, rfl⟩ := Option.map_eq_some_iff.mp found
    exact exists_matched_closing behind

/-- A pattern matches wherever a word of it stands. -/
theorem isSome_of_begins (begins : pattern.Begins text) :
    (pattern.matchLength? text).isSome = true := by
  obtain ⟨word, isWord, rest, rfl⟩ := begins
  cases isWord with
  | blanks _ => rfl
  | blankRun blank some =>
    have longer := blank.length_le (List.prefix_append word rest)
    have positive := List.length_pos_iff.mpr some
    have more : blankLength (word ++ rest) ≠ 0 := Nat.ne_of_gt (Nat.lt_of_lt_of_le positive longer)
    change (if blankLength (word ++ rest) = 0 then none else _).isSome = true
    rw [if_neg more]
    rfl
  | nonBlank black => simp [matchLength?, black]
  | sigil member => simp [matchLength?, member]
  | literal => simp [matchLength?]
  | opening _ =>
    rw [List.append_assoc, matchLength?_opening]
    rfl
  | closing blank =>
    rw [List.append_assoc, matchLength?_closing, Option.isSome_map]
    exact blanksBefore?_isSome rest blank

/-- **Where a pattern matches**: wherever one of its words stands. -/
theorem hits_iff : pattern.hits text = true ↔ pattern.Begins text := by
  refine ⟨fun hit => ?_, isSome_of_begins⟩
  obtain ⟨size, found⟩ := Option.isSome_iff_exists.mp hit
  obtain ⟨word, matched, _⟩ := exists_matched found
  exact ⟨word, matched.isWord, matched.begins⟩

/-- **A match is cut off, or there is none.** -/
theorem scan_cases (pattern : Pattern) (text : List Char) :
    (∃ word rest, pattern.Matched text word ∧ pattern.scan text = (word, rest)) ∨
      ¬ pattern.Begins text ∧ pattern.scan text = ([], text) := by
  cases found : pattern.matchLength? text with
  | none =>
    refine .inr ⟨fun begins => ?_, ?_⟩
    · have hit := isSome_of_begins begins
      rw [found] at hit
      cases hit
    · rw [scan, found, Option.getD_none, List.splitAt_eq, List.take_zero, List.drop_zero]
  | some size =>
    obtain ⟨word, matched, rfl⟩ := exists_matched found
    refine .inl ⟨word, text.drop word.length, matched, ?_⟩
    rw [scan_eq found, ← List.prefix_iff_eq_take.mp matched.begins]

/-- A content that is blank itself is matched as late as it can be. -/
example : (closing [' ', ' ']).scan [' ', ' ', ' ', '|'] = ([' ', ' ', ' '], ['|']) := by
  decide +kernel

end Pattern

namespace Scanner

/-! ### Steps -/

/-- A step of a scanner: over a match, or over everything before the next one. -/
inductive Step where
  | scan (pattern : Pattern)
  | scanUntil (pattern : Pattern)

/-- What a step answers, and the scanner after it. -/
def step (scanner : Scanner) : Step → String × Scanner
  | .scan pattern => scanner.scan pattern
  | .scanUntil pattern => scanner.scanUntil pattern

/-- **What some steps answer**, one after the other, and the scanner after them. -/
def run (scanner : Scanner) : List Step → List String × Scanner
  | [] => ([], scanner)
  | step :: rest =>
    let (answer, next) := scanner.step step
    let (answers, last) := next.run rest
    (answer :: answers, last)

/-- **A scanner goes on by what it answers**: the answer is taken from the text that remains, and
joins the text that is passed. -/
structure Advances (scanner : Scanner) (answer : String) (next : Scanner) : Prop where
  passed : next.passed = scanner.passed ++ answer.toList
  remaining : scanner.remaining = answer.toList ++ next.remaining

variable {scanner next last : Scanner} {answer another : String}

theorem Advances.refl (scanner : Scanner) : Advances scanner "" scanner where
  passed := (List.append_nil _).symm
  remaining := rfl

theorem Advances.trans (first : Advances scanner answer next)
    (second : Advances next another last) : Advances scanner (answer ++ another) last where
  passed := by rw [second.passed, first.passed, String.toList_append, List.append_assoc]
  remaining := by rw [first.remaining, second.remaining, String.toList_append, List.append_assoc]

/-- The text is the same all along. -/
theorem Advances.text_eq (advances : Advances scanner answer next) : next.text = scanner.text := by
  unfold text
  rw [advances.passed, advances.remaining, List.append_assoc]

theorem Advances.position_le (advances : Advances scanner answer next) :
    scanner.position ≤ next.position := by
  unfold position
  rw [advances.passed, List.length_append]
  exact Nat.le_add_right _ _

/-- A part is cut off the text that remains. -/
theorem advances_pass {parts : List Char × List Char}
    (whole : parts.1 ++ parts.2 = scanner.remaining) :
    Advances scanner (scanner.pass parts).1 (scanner.pass parts).2 where
  passed := congrArg (scanner.passed ++ ·) String.toList_ofList.symm
  remaining := by rw [← whole, pass, String.toList_ofList]

/-- **One step.** -/
theorem advances_step (scanner : Scanner) (step : Step) :
    Advances scanner (scanner.step step).1 (scanner.step step).2 := by
  cases step with
  | scan pattern => exact advances_pass (pattern.scan_append scanner.remaining)
  | scanUntil pattern => exact advances_pass (pattern.scanUntil_append scanner.remaining)

/-- **A run**: its answers one after the other are what it has passed over. -/
theorem advances_run (scanner : Scanner) (steps : List Step) :
    Advances scanner (String.join (scanner.run steps).1) (scanner.run steps).2 := by
  induction steps generalizing scanner with
  | nil => exact .refl scanner
  | cons step rest hypothesis =>
    rw [run, String.join_cons]
    exact (advances_step scanner step).trans (hypothesis _)

/-! ### Places -/

/-- A scanner passes over what a pattern matches at its place in a text, or it stays as it is and
answers nothing. -/
def PassesMatch (scanner : Scanner) (text : List Char) (pattern : Pattern) : Prop :=
  (∃ word, pattern.Matched (text.drop scanner.position) word ∧
      (scanner.scan pattern).1 = String.ofList word ∧
      (scanner.scan pattern).2.position = scanner.position + word.length) ∨
    ¬ pattern.Begins (text.drop scanner.position) ∧ scanner.scan pattern = ("", scanner)

/-- A scanner stops at the first place of a text, from its own on, where a pattern matches, or at
the end if there is none. -/
def StopsAtNext (scanner : Scanner) (text : List Char) (pattern : Pattern) : Prop :=
  let stop := (scanner.scanUntil pattern).2.position
  IsLeast {place | scanner.position ≤ place ∧ pattern.Begins (text.drop place)} stop ∨
    (∀ place, scanner.position ≤ place → ¬ pattern.Begins (text.drop place)) ∧
      stop = text.length

/-- What remains is what stands in the text from the place of the scanner on. -/
theorem drop_position (scanner : Scanner) :
    (scanner.passed ++ scanner.remaining).drop scanner.position = scanner.remaining :=
  List.drop_left

theorem passesMatch (scanner : Scanner) (pattern : Pattern) :
    scanner.PassesMatch (scanner.passed ++ scanner.remaining) pattern := by
  unfold PassesMatch
  rw [drop_position]
  rcases pattern.scan_cases scanner.remaining with ⟨word, rest, matched, cut⟩ | ⟨miss, none⟩
  · refine .inl ⟨word, matched, ?_, ?_⟩
    · rw [scan, cut, pass]
    · rw [scan, cut, pass, position, List.length_append]
      rfl
  · refine .inr ⟨miss, ?_⟩
    rw [scan, none, pass, List.append_nil]

/-- **Before the place where a search stops** the pattern matches nowhere. -/
theorem not_begins_of_lt_stop {scanner : Scanner} {pattern : Pattern} {place : Nat}
    (here : scanner.position ≤ place) (before : place < (scanner.scanUntil pattern).2.position) :
    ¬ pattern.Begins ((scanner.passed ++ scanner.remaining).drop place) := by
  obtain ⟨misses, _⟩ := pattern.scanUntil_spec scanner.remaining
  have whole := pattern.scanUntil_append scanner.remaining
  obtain ⟨further, rfl⟩ := Nat.exists_eq_add_of_le here
  have inside : further < (pattern.scanUntil scanner.remaining).1.length := by
    change _ < (scanner.passed ++ (pattern.scanUntil scanner.remaining).1).length at before
    rw [List.length_append] at before
    exact Nat.lt_of_add_lt_add_left before
  have miss := misses ((pattern.scanUntil scanner.remaining).1.drop further)
    (List.drop_suffix _ _) (by simpa using inside)
  rw [← List.drop_append_of_le_length (Nat.le_of_lt inside), whole] at miss
  rw [← List.drop_drop, drop_position, ← Pattern.hits_iff, miss]
  exact Bool.false_ne_true

theorem stopsAtNext (scanner : Scanner) (pattern : Pattern) :
    scanner.StopsAtNext (scanner.passed ++ scanner.remaining) pattern := by
  have advances : Advances scanner (scanner.scanUntil pattern).1 (scanner.scanUntil pattern).2 :=
    advances_step scanner (.scanUntil pattern)
  have least : ∀ place, scanner.position ≤ place →
      pattern.Begins ((scanner.passed ++ scanner.remaining).drop place) →
      (scanner.scanUntil pattern).2.position ≤ place := fun place here begins =>
    Nat.le_of_not_lt fun before => not_begins_of_lt_stop here before begins
  have whole := congrArg String.toList advances.text_eq
  rw [text, text, String.toList_ofList, String.toList_ofList] at whole
  have behind : (scanner.passed ++ scanner.remaining).drop
      (scanner.scanUntil pattern).2.position = (scanner.scanUntil pattern).2.remaining := by
    rw [← whole, drop_position]
  by_cases begins : pattern.Begins (scanner.scanUntil pattern).2.remaining
  · exact .inl ⟨⟨advances.position_le, behind ▸ begins⟩, fun place found =>
      least place found.1 found.2⟩
  · have ended : (scanner.scanUntil pattern).2.remaining = [] :=
      (pattern.scanUntil_spec scanner.remaining).2.resolve_right fun hit =>
        begins (Pattern.hits_iff.mp hit)
    have stop : (scanner.scanUntil pattern).2.position =
        (scanner.passed ++ scanner.remaining).length := by
      rw [← whole, ended, List.append_nil]
      rfl
    refine .inr ⟨fun place here found => begins ?_, stop⟩
    have past := least place here found
    rw [stop] at past
    rwa [List.drop_eq_nil_of_le past, ← ended] at found

/-- **A scanner neither loses nor rereads text.** After any steps through a text the answers make up
the text before the place of the scanner, which lies within the text and never falls back, and the
tail is the rest. From there each pattern passes over the longest of its words that stands at this
place, or leaves the scanner as it is; and a search for it stops at the first place from here on
where one of its words stands, or at the end if there is none. -/
theorem run_reads (source : String) (steps : List Step) :
    let answers := ((ofString source).run steps).1
    let scanner := ((ofString source).run steps).2
    String.join answers = String.ofList (source.toList.take scanner.position) ∧
      scanner.tail = String.ofList (source.toList.drop scanner.position) ∧
      scanner.text = source ∧ scanner.position ≤ source.length ∧
      (∀ more, scanner.position ≤ (scanner.run more).2.position) ∧
      ∀ pattern, scanner.PassesMatch source.toList pattern ∧
        scanner.StopsAtNext source.toList pattern := by
  intro answers scanner
  have advances : Advances (ofString source) (String.join answers) scanner :=
    advances_run (ofString source) steps
  have start : (ofString source).text = source := String.ofList_toList
  have same : scanner.text = source := advances.text_eq.trans start
  have whole : source.toList = scanner.passed ++ scanner.remaining := by
    rw [← same, text, String.toList_ofList]
  refine ⟨?_, ?_, same, ?_, fun more => (advances_run scanner more).position_le, fun pattern => ?_⟩
  · have passed : scanner.passed = (String.join answers).toList := advances.passed
    rw [whole, position, List.take_left, passed, String.ofList_toList]
  · rw [whole, drop_position]
    rfl
  · rw [← String.length_toList, whole, position, List.length_append]
    exact Nat.le_add_right _ _
  · rw [whole]
    exact ⟨scanner.passesMatch pattern, scanner.stopsAtNext pattern⟩

end Scanner

end Mustache
