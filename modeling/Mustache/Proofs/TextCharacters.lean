import Mathlib.Data.List.Basic
import Mustache.Number.Shortest

/-!
**Texts of one sort of characters.**

Much of what is known of a text is known of each of its characters, and then also of what is put
together from such texts. The texts of numbers hold nothing but digits, small letters, signs and
points, whatever the number is.

* `Text.AllOf`: a text all of whose characters are of a sort.
* `AllOf.append`, `allOf_join`, `allOf_intercalate`: texts put together.
* `Text.isNumeric`: the characters that numbers are written with.
* `numeric_int`, `Binary64.numeric_text`, `Binary64.numeric_hexText`: **the texts of numbers.**
* `toString_int_injective`: different whole numbers have different texts.
-/

namespace Mustache

namespace Text

/-- **A text all of whose characters are of a sort.** -/
def AllOf (sort : Char → Prop) (text : String) : Prop := ∀ char ∈ text.toList, sort char

instance (sort : Char → Prop) [DecidablePred sort] (text : String) : Decidable (AllOf sort text) :=
  List.decidableBAll sort text.toList

variable {sort : Char → Prop}

theorem AllOf.mono {other : Char → Prop} {text : String} (all : AllOf sort text)
    (sends : ∀ char, sort char → other char) : AllOf other text :=
  fun char member => sends char (all char member)

/-! ### Texts put together -/

theorem allOf_empty : AllOf sort "" := nofun

theorem allOf_ofList {text : List Char} (all : ∀ char ∈ text, sort char) :
    AllOf sort (String.ofList text) := by
  intro char member
  rw [String.toList_ofList] at member
  exact all char member

theorem AllOf.append {first second : String} (left : AllOf sort first)
    (right : AllOf sort second) : AllOf sort (first ++ second) := by
  intro char member
  rw [String.toList_append] at member
  exact (List.mem_append.mp member).elim (left char) (right char)

theorem allOf_ite {test : Prop} [Decidable test] {first second : String}
    (left : AllOf sort first) (right : AllOf sort second) :
    AllOf sort (if test then first else second) := by
  split
  · exact left
  · exact right

/-- **Texts put together.** -/
theorem allOf_join {parts : List String} (each : ∀ part ∈ parts, AllOf sort part) :
    AllOf sort (String.join parts) := by
  intro char member
  rw [String.toList_join] at member
  obtain ⟨part, inside, here⟩ := List.mem_flatMap.mp member
  exact each part inside char here

/-- **Texts put together with a mark between each two.** -/
theorem allOf_intercalate {mark : String} {parts : List String} (between : AllOf sort mark)
    (each : ∀ part ∈ parts, AllOf sort part) : AllOf sort (mark.intercalate parts) := by
  induction parts with
  | nil => exact allOf_empty
  | cons part rest hypothesis =>
    obtain ⟨here, later⟩ := List.forall_mem_cons.mp each
    cases rest with
    | nil =>
      rw [String.intercalate_singleton]
      exact here
    | cons next rest =>
      rw [String.intercalate_cons_cons]
      exact (here.append between).append (hypothesis later)

theorem allOf_pushn {text : String} {char : Char} (all : AllOf sort text) (own : sort char)
    (count : Nat) : AllOf sort (text.pushn char count) := by
  unfold String.pushn
  induction count with
  | zero => exact all
  | succ count hypothesis =>
    intro other member
    rw [Nat.repeat, String.toList_push] at member
    rcases List.mem_append.mp member with before | last
    · exact hypothesis other before
    · rw [List.mem_singleton.mp last]
      exact own

/-! ### Numbers -/

/-- A character that numbers are written with: a digit, a small letter, a sign or a point. -/
def isNumeric (char : Char) : Bool :=
  char.isDigit || char.isLower || char == '-' || char == '+' || char == '.'

/-- A text that consists of such characters. -/
abbrev Numeric (text : String) : Prop := AllOf (fun char => isNumeric char = true) text

theorem numeric_nat (number : Nat) : Numeric (toString number) := by
  rw [Nat.toString_eq_ofList_toDigits]
  refine allOf_ofList fun char member => ?_
  unfold isNumeric
  rw [Nat.isDigit_of_mem_toDigits (by decide) (by decide) member]
  rfl

/-- **The text of a whole number.** -/
theorem numeric_int (number : Int) : Numeric (toString number) := by
  cases number with
  | ofNat size => exact numeric_nat size
  | negSucc size =>
    have minus : Numeric "-" := by decide
    exact minus.append (numeric_nat (size + 1))

/-- A number is read back from its digits. -/
theorem toString_nat_injective {first second : Nat} (same : toString first = toString second) :
    first = second := by
  rw [Nat.toString_eq_ofList_toDigits, Nat.toString_eq_ofList_toDigits] at same
  have digits := congrArg (Nat.ofDigitChars 10 · 0) (String.ofList_injective same)
  simp only [Nat.ofDigitChars_ten_toDigits] at digits
  exact digits

theorem minus_notMem_nat (number : Nat) : '-' ∉ (toString number).toList := by
  rw [Nat.toString_eq_ofList_toDigits, String.toList_ofList]
  intro member
  cases Nat.isDigit_of_mem_toDigits (by decide) (by decide) member

/-- **Different whole numbers have different texts.** -/
theorem toString_int_injective {first second : Int} (same : toString first = toString second) :
    first = second := by
  have sign : ∀ size : Nat, '-' ∈ (toString (Int.negSucc size)).toList := fun size => by
    show '-' ∈ ("-" ++ toString (size + 1)).toList
    rw [String.toList_append]
    exact List.mem_append_left _ List.mem_cons_self
  cases first with
  | ofNat size =>
    cases second with
    | ofNat other => exact congrArg Int.ofNat (toString_nat_injective same)
    | negSucc other => exact absurd (same ▸ sign other) (minus_notMem_nat size)
  | negSucc size =>
    cases second with
    | ofNat other => exact absurd (same ▸ sign size) (minus_notMem_nat other)
    | negSucc other =>
      have shown : "-" ++ toString (size + 1) = "-" ++ toString (other + 1) := same
      have sizes : size + 1 = other + 1 := toString_nat_injective ((String.append_right_inj _).mp shown)
      rw [Nat.succ.inj sizes]

theorem isNumeric_hexDigit {digit : Nat} (small : digit < 16) :
    isNumeric (hexDigit digit) = true := by
  have all : ∀ digit < 16, isNumeric (hexDigit digit) = true := by decide
  exact all digit small

theorem isNumeric_hexDigits (width number : Nat) :
    ∀ char ∈ hexDigits width number, isNumeric char = true := by
  induction width generalizing number with
  | zero => exact nofun
  | succ width hypothesis =>
    intro char member
    rcases List.mem_append.mp member with before | last
    · exact hypothesis _ char before
    · rw [List.mem_singleton.mp last]
      exact isNumeric_hexDigit (Nat.mod_lt _ (by decide))

end Text

namespace Binary64

open Text

theorem numeric_exponentText (exponent : Int) : Numeric (exponentText exponent) := by
  have zero : Numeric "0" := by decide
  have size := numeric_nat exponent.natAbs
  exact (allOf_ite (by decide) (by decide)).append (allOf_ite (zero.append size) size)

theorem numeric_layout (digits : Nat) (power : Int) : Numeric (layout digits power) := by
  have marks : Numeric "." ∧ Numeric "e" ∧ Numeric "0." ∧ Numeric ".0" := by decide
  obtain ⟨point, exponent, start, finish⟩ := marks
  have shown := numeric_nat digits
  have zeros : ∀ count, Numeric (String.ofList (List.replicate count '0')) := fun count =>
    allOf_ofList fun char member => by
      rw [List.eq_of_mem_replicate member]
      decide
  have front : ∀ count, Numeric (String.ofList ((toString digits).toList.take count)) :=
    fun count => allOf_ofList fun char member => shown char (List.mem_of_mem_take member)
  have back : ∀ count, Numeric (String.ofList ((toString digits).toList.drop count)) :=
    fun count => allOf_ofList fun char member => shown char (List.mem_of_mem_drop member)
  refine allOf_ite ?_ (allOf_ite ?_ (allOf_ite ?_ ?_))
  · refine ((front 1).append (allOf_ite allOf_empty ?_)).append exponent |>.append
      (numeric_exponentText _)
    exact point.append (back 1)
  · exact (start.append (zeros _)).append shown
  · exact (shown.append (zeros _)).append finish
  · exact ((front _).append point).append (back _)

theorem numeric_sign (number : Binary64) : Numeric (if number.isNegative then "-" else "") :=
  allOf_ite (by decide) allOf_empty

/-- **The text of a floating-point number.** -/
theorem numeric_text (number : Binary64) : Numeric number.text := by
  have words : Numeric "nan" ∧ Numeric "inf" ∧ Numeric "0.0" := by decide
  obtain ⟨nan, inf, zero⟩ := words
  have sign := number.numeric_sign
  exact allOf_ite nan (allOf_ite (sign.append inf) (allOf_ite (sign.append zero)
    (sign.append (numeric_layout _ _))))

/-- The exact number in hexadecimal. -/
theorem numeric_hexText (number : Binary64) : Numeric number.hexText := by
  have words : Numeric "nan" ∧ Numeric "inf" ∧ Numeric "0x0.0p+0" ∧ Numeric "p" := by decide
  obtain ⟨nan, inf, zero, mark⟩ := words
  have sign := number.numeric_sign
  have lead : ∀ test : Prop, [Decidable test] → Numeric (if test then "0x0." else "0x1.") :=
    fun _ => allOf_ite (by decide) (by decide)
  have digits : Numeric (String.ofList (hexDigits 13 number.fraction)) :=
    allOf_ofList (isNumeric_hexDigits 13 _)
  refine allOf_ite nan (allOf_ite (sign.append inf) (allOf_ite (sign.append zero) ?_))
  exact (((sign.append (lead _)).append digits).append mark).append
    (allOf_ite (by decide) (by decide)) |>.append (numeric_nat _)

end Binary64

end Mustache
