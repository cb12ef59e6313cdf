import Mathlib.Data.List.SplitBy
import Mustache.Proofs.DecodedBytes
import Mustache.Proofs.TextCharacters

/-!
**Texts of one line.**

A text of one line holds no line feed. Quoting writes a line feed by a letter, and no number, day,
moment or clock is written with one; nor is one brought in by a change of case, by what is taken off
the ends of a text or by its parts.

* `Text.OneLine`: a text without line feeds.
* `oneLine_quoted`, `oneLine_quotedBytes`: **quoted texts and bytes.**
* `Date.oneLine_words`, `Moment.oneLine_text`: days and moments.
* `Value.oneLine_momentShown`, `Value.oneLine_zoneShown`: and as they are shown in a list.
* `OneLine.upper`, `OneLine.strip`, `OneLine.words`: parts of a text, and its case.
-/

namespace Mustache

namespace Text

/-- **A text without line feeds.** -/
abbrev OneLine (text : String) : Prop := AllOf (· ≠ '\n') text

theorem oneLine_iff {text : String} : OneLine text ↔ '\n' ∉ text.toList :=
  ⟨fun one member => one '\n' member rfl, fun absent _ member same => absent (same ▸ member)⟩

theorem oneLine_of_numeric {text : String} (numeric : Numeric text) : OneLine text := by
  refine numeric.mono fun char own => ?_
  rintro rfl
  cases own

theorem oneLine_nat (number : Nat) : OneLine (toString number) :=
  oneLine_of_numeric (numeric_nat number)

theorem oneLine_int (number : Int) : OneLine (toString number) :=
  oneLine_of_numeric (numeric_int number)

/-! ### Quoted texts -/

theorem quoteMark_ne (text : List Char) : quoteMark text ≠ '\n' := by
  unfold quoteMark
  split <;> decide

theorem oneLine_codeEscape (code : Nat) : ∀ char ∈ codeEscape code, char ≠ '\n' := by
  have digits : ∀ width, ∀ char ∈ hexDigits width code, char ≠ '\n' := by
    rintro width char member rfl
    cases isNumeric_hexDigits width code '\n' member
  unfold codeEscape
  split
  · exact List.forall_mem_cons.mpr ⟨by decide, List.forall_mem_cons.mpr ⟨by decide, digits 2⟩⟩
  · split
    · exact List.forall_mem_cons.mpr ⟨by decide, List.forall_mem_cons.mpr ⟨by decide, digits 4⟩⟩
    · exact List.forall_mem_cons.mpr ⟨by decide, List.forall_mem_cons.mpr ⟨by decide, digits 8⟩⟩

/-- A character between quote marks. -/
theorem oneLine_quotedChar {mark : Char} (plain : mark ≠ '\n') (char : Char) :
    ∀ other ∈ quotedChar mark char, other ≠ '\n' := by
  have letter : ∀ letter, letter ≠ '\n' → ∀ other ∈ ['\\', letter], other ≠ '\n' := fun _ plain =>
    List.forall_mem_cons.mpr ⟨by decide, List.forall_mem_singleton.mpr plain⟩
  unfold quotedChar
  split
  · rename_i escaped
    refine List.forall_mem_cons.mpr ⟨by decide, List.forall_mem_singleton.mpr ?_⟩
    rintro rfl
    rcases Bool.or_eq_true_iff.mp escaped with same | same
    · exact plain (eq_of_beq same).symm
    · cases same
  · split
    · exact letter _ (by decide)
    · split
      · exact letter _ (by decide)
      · split
        · exact letter _ (by decide)
        · rename_i other _
          split
          · refine List.forall_mem_singleton.mpr ?_
            rintro rfl
            exact other rfl
          · exact oneLine_codeEscape _

/-- What stands between quote marks. -/
theorem oneLine_between {mark : Char} (plain : mark ≠ '\n') {content : List Char}
    (inside : ∀ char ∈ content, char ≠ '\n') :
    OneLine (String.ofList (mark :: content ++ [mark])) := by
  refine allOf_ofList fun char member => ?_
  rw [List.cons_append] at member
  rcases List.mem_cons.mp member with rfl | later
  · exact plain
  · rcases List.mem_append.mp later with here | last
    · exact inside char here
    · rwa [List.mem_singleton.mp last]

/-- **A quoted text is of one line**, whatever the text is. -/
theorem oneLine_quoted (text : String) : OneLine (quoted text) := by
  refine oneLine_between (quoteMark_ne _) fun char member => ?_
  obtain ⟨own, _, here⟩ := List.mem_flatMap.mp member
  exact oneLine_quotedChar (quoteMark_ne _) own char here

theorem oneLine_quotedBytes (bytes : List UInt8) : OneLine (quotedBytes bytes) := by
  refine oneLine_between (quoteMark_ne _) fun char member => ?_
  obtain ⟨byte, _, here⟩ := List.mem_flatMap.mp member
  unfold quotedByte at here
  split at here
  · exact oneLine_quotedChar (quoteMark_ne _) _ char here
  · exact oneLine_codeEscape _ char here

/-! ### Parts of a text, and its case -/

theorem toUpper_ne {char : Char} (other : char ≠ '\n') : char.toUpper ≠ '\n' := by
  intro same
  have value := congrArg Char.val same
  unfold Char.toUpper at value
  split at value
  · grind
  · exact other (Char.ext value)

theorem toLower_ne {char : Char} (other : char ≠ '\n') : char.toLower ≠ '\n' := by
  intro same
  have value := congrArg Char.val same
  unfold Char.toLower at value
  split at value
  · grind
  · exact other (Char.ext value)

variable {text : String} (one : OneLine text)

include one

theorem OneLine.map {change : Char → Char} (keeps : ∀ {char}, char ≠ '\n' → change char ≠ '\n') :
    OneLine (String.ofList (text.toList.map change)) := by
  refine allOf_ofList fun char member => ?_
  obtain ⟨own, inside, rfl⟩ := List.mem_map.mp member
  exact keeps (one own inside)

theorem OneLine.upper : OneLine (upper text) := one.map toUpper_ne

theorem OneLine.lower : OneLine (lower text) := one.map toLower_ne

theorem OneLine.swapCase : OneLine (swapCase text) := by
  refine one.map fun {char} other => ?_
  split
  · exact toLower_ne other
  · exact toUpper_ne other

omit one in
theorem titleFrom_ne {inWord : Bool} {chars : List Char} (each : ∀ char ∈ chars, char ≠ '\n') :
    ∀ char ∈ titleFrom inWord chars, char ≠ '\n' := by
  induction chars generalizing inWord with
  | nil => exact nofun
  | cons char rest hypothesis =>
    obtain ⟨here, later⟩ := List.forall_mem_cons.mp each
    refine List.forall_mem_cons.mpr ⟨?_, hypothesis later⟩
    split
    · exact toLower_ne here
    · exact toUpper_ne here

theorem OneLine.title : OneLine (title text) := allOf_ofList (titleFrom_ne one)

theorem OneLine.strip : OneLine (strip text) := by
  refine allOf_ofList fun char member => one char ?_
  have inner := (List.dropWhile_sublist _).subset (List.mem_reverse.mp member)
  exact (List.dropWhile_sublist _).subset (List.mem_reverse.mp inner)

/-- The words of a text. -/
theorem OneLine.words : ∀ word ∈ Catalogue.words text.toList, OneLine (String.ofList word) := by
  intro word member
  refine allOf_ofList fun char inside => one char ?_
  have whole : char ∈ (text.toList.splitBy
      fun first second => isBlank first == isBlank second).flatten :=
    List.mem_flatten.mpr ⟨word, List.mem_of_mem_filter member, inside⟩
  rwa [List.flatten_splitBy] at whole

/-! ### Bytes -/

omit one in
/-- Bytes by their hexadecimal digits. -/
theorem oneLine_byteDigits (bytes : List UInt8) :
    OneLine (String.join (bytes.map Utf8.byteDigits)) := by
  refine oneLine_of_numeric (allOf_join fun part member => ?_)
  obtain ⟨byte, _, rfl⟩ := List.mem_map.mp member
  have high : byte.toNat / 16 < 16 := Nat.div_lt_of_lt_mul byte.toNat_lt
  refine allOf_ofList (List.forall_mem_cons.mpr ⟨isNumeric_hexDigit high, ?_⟩)
  exact List.forall_mem_singleton.mpr (isNumeric_hexDigit (Nat.mod_lt _ (by decide)))

/-- What the bytes of a text of one line encode. -/
theorem OneLine.decode_encode {other : String}
    (decoded : Utf8.decode (Utf8.encode text) = .ok other) : OneLine other :=
  oneLine_iff.mpr fun member =>
    oneLine_iff.mp one (Utf8.mem_of_mem_encode (Utf8.mem_of_decode decoded member))

end Text

open Text

/-! ### Days, moments and clocks -/

theorem Calendar.numeric_padded (width number : Nat) : Numeric (padded width number) :=
  (allOf_pushn allOf_empty (by decide) _).append (numeric_nat number)

theorem Date.numeric_text (date : Date) : Numeric date.text := by
  have dash : Numeric "-" := by decide
  exact (((Calendar.numeric_padded 4 _).append dash).append (Calendar.numeric_padded 2 _)).append
    dash |>.append (Calendar.numeric_padded 2 _)

theorem Date.oneLine_text (date : Date) : OneLine date.text := oneLine_of_numeric date.numeric_text

/-- A name of a list of names. -/
theorem Date.oneLine_getD {names : List String} (each : ∀ name ∈ names, OneLine name)
    (place : Nat) : OneLine (names.getD place "") := by
  rw [List.getD_eq_getElem?_getD]
  cases found : names[place]? with
  | none => exact allOf_empty
  | some name => exact each name (List.mem_of_getElem? found)

theorem Date.oneLine_words (date : Date) {clock : String} (one : OneLine clock) :
    OneLine (date.words clock) := by
  have blank : OneLine " " := by decide
  have week := oneLine_getD (show ∀ name ∈ weekdayNames, OneLine name by decide) date.weekday
  have year := oneLine_getD (show ∀ name ∈ monthNames, OneLine name by decide) (date.month - 1)
  have pushed : ∀ count, OneLine ("".pushn ' ' count) := allOf_pushn allOf_empty (by decide)
  exact ((((((week.append blank).append year).append blank).append (pushed _)).append
    (oneLine_nat date.day)).append blank).append one |>.append blank |>.append
      (oneLine_of_numeric (Calendar.numeric_padded 4 _))

theorem Zone.oneLine_text (zone : Zone) : OneLine zone.text := by
  have two := fun number => oneLine_of_numeric (Calendar.numeric_padded 2 number)
  have colon : OneLine ":" := by decide
  exact ((allOf_ite (by decide) (by decide)).append (two _)).append colon |>.append (two _)

theorem Zone.oneLine_measure (minutes : Int) : OneLine (measure minutes) := by
  have opening : OneLine "datetime.timedelta(" := by decide
  have closing : OneLine ")" := by decide
  have days : OneLine "days=" := by decide
  have seconds : OneLine "seconds=" := by decide
  refine (opening.append (allOf_ite (by decide) (allOf_intercalate (by decide) ?_))).append closing
  intro part member
  rcases List.mem_append.mp member with here | here
  · split at here
    · cases here
    · rw [List.mem_singleton.mp here]
      exact days.append (oneLine_int _)
  · split at here
    · cases here
    · rw [List.mem_singleton.mp here]
      exact seconds.append (oneLine_int _)

theorem Moment.oneLine_clock (moment : Moment) : OneLine moment.clock := by
  have two := fun number => oneLine_of_numeric (Calendar.numeric_padded 2 number)
  have colon : OneLine ":" := by decide
  have point : OneLine "." := by decide
  exact ((((two _).append colon).append (two _)).append colon).append (two _) |>.append
    (allOf_ite allOf_empty (point.append (oneLine_of_numeric (Calendar.numeric_padded 6 _))))

theorem Moment.oneLine_text {separator : String} (one : OneLine separator) (moment : Moment) :
    OneLine (moment.text separator) := by
  refine ((moment.date.oneLine_text.append one).append moment.oneLine_clock).append ?_
  cases moment.zone with
  | none => exact allOf_empty
  | some zone => exact zone.oneLine_text

theorem Moment.oneLine_words (moment : Moment) : OneLine moment.words :=
  moment.date.oneLine_words (oneLine_clock _)

namespace Value

theorem oneLine_bracketed {opening closing : String} {parts : List String}
    (start : OneLine opening) (finish : OneLine closing) (each : ∀ part ∈ parts, OneLine part) :
    OneLine (bracketed opening closing parts) :=
  (start.append (allOf_intercalate (by decide) each)).append finish

theorem oneLine_rangeShown (start stop step : Int) : OneLine (rangeShown start stop step) := by
  have opening : OneLine "range(" := by decide
  have comma : OneLine ", " := by decide
  have closing : OneLine ")" := by decide
  exact ((opening.append (((oneLine_int start).append comma).append (oneLine_int stop))).append
    (allOf_ite allOf_empty (comma.append (oneLine_int step)))).append closing

/-- A clock in a list, whatever its name is. -/
theorem oneLine_zoneShown (zone : Zone) : OneLine (zoneShown zone) := by
  have opening : OneLine "datetime.timezone(" := by decide
  have comma : OneLine ", " := by decide
  have closing : OneLine ")" := by decide
  exact ((opening.append (Zone.oneLine_measure _)).append comma).append (oneLine_quoted _)
    |>.append closing

theorem oneLine_numbers (numbers : List Nat) :
    ∀ part ∈ numbers.map toString, OneLine part := by
  intro part member
  obtain ⟨number, _, rfl⟩ := List.mem_map.mp member
  exact oneLine_nat number

theorem oneLine_dateShown (date : Date) : OneLine (dateShown date) :=
  oneLine_bracketed (by decide) (by decide) (oneLine_numbers _)

/-- A moment in a list. -/
theorem oneLine_momentShown (moment : Moment) : OneLine (momentShown moment) := by
  have mark : OneLine "tzinfo=" := by decide
  refine oneLine_bracketed (by decide) (by decide) fun part member => ?_
  rcases List.mem_append.mp member with here | here
  · exact oneLine_numbers _ part here
  · obtain ⟨zone, _, rfl⟩ := List.mem_map.mp here
    exact mark.append (oneLine_zoneShown zone)

end Value

end Mustache
