import Mathlib.Algebra.Group.Nat.Defs
import Mustache.Text.Digit
import Mustache.Text.Quoted

/-!
**Quoted texts read back.**

A quoted text shows what it quotes and where it ends, whatever stands behind it: each character is
read back from what it is written with, and no character is written with the mark in front.

* `Text.hexNumber`: the number that hexadecimal digits denote.
* `Text.readQuotedChar?`: the first character of what stands between quote marks.
* `readQuotedChar?_quotedChar`: **one character read back.**
* `quotedList_append_inj`: **a quoted text and what follows it.**
-/

namespace Mustache.Text

/-! ### Code points -/

/-- The number that hexadecimal digits denote, most significant first. -/
def hexNumber (digits : List Char) : Nat :=
  digits.foldl (fun number digit => number * 16 + (hexValue? digit).getD 0) 0

theorem hexNumber_concat (digits : List Char) (digit : Char) :
    hexNumber (digits ++ [digit]) = hexNumber digits * 16 + (hexValue? digit).getD 0 := by
  rw [hexNumber, List.foldl_append]
  rfl

theorem hexValue?_hexDigit {digit : Nat} (small : digit < 16) :
    hexValue? (hexDigit digit) = some digit := by
  have all : ∀ digit < 16, hexValue? (hexDigit digit) = some digit := by decide
  exact all digit small

theorem length_hexDigits (width number : Nat) : (hexDigits width number).length = width := by
  induction width generalizing number with
  | zero => rfl
  | succ width hypothesis => rw [hexDigits, List.length_append, hypothesis, List.length_singleton]

/-- The last digits of a number, read back. -/
theorem hexNumber_hexDigits (width number : Nat) :
    hexNumber (hexDigits width number) = number % 16 ^ width := by
  induction width generalizing number with
  | zero => rw [Nat.pow_zero, Nat.mod_one]; rfl
  | succ width hypothesis =>
    calc hexNumber (hexDigits (width + 1) number)
      _ = hexNumber (hexDigits width (number / 16)) * 16 + number % 16 := by
        rw [hexDigits, hexNumber_concat, hexValue?_hexDigit (Nat.mod_lt _ (by decide)),
          Option.getD_some]
      _ = number % 16 + 16 * (number / 16 % 16 ^ width) := by
        rw [hypothesis, Nat.mul_comm, Nat.add_comm]
      _ = number % 16 ^ (width + 1) := by rw [Nat.pow_succ', Nat.mod_mul]

/-- The character that the first `width` digits of a text denote, and the rest of the text. -/
def readCode (width : Nat) (text : List Char) : Char × List Char :=
  (Char.ofNat (hexNumber (text.take width)), text.drop width)

theorem readCode_hexDigits (width : Nat) {char : Char} (small : char.toNat < 16 ^ width)
    (rest : List Char) : readCode width (hexDigits width char.toNat ++ rest) = (char, rest) := by
  have length := length_hexDigits width char.toNat
  rw [readCode, List.take_left' length, List.drop_left' length, hexNumber_hexDigits,
    Nat.mod_eq_of_lt small, Char.ofNat_toNat]

/-! ### Characters -/

/-- The character that is written by a backslash, a letter and what the letter asks for. -/
def readEscape (letter : Char) (rest : List Char) : Char × List Char :=
  match letter with
  | 't' => ('\t', rest)
  | 'n' => ('\n', rest)
  | 'r' => ('\r', rest)
  | 'x' => readCode 2 rest
  | 'u' => readCode 4 rest
  | 'U' => readCode 8 rest
  | _ => (letter, rest)

/-- **The first character of what stands between quote marks**, and the rest. -/
def readQuotedChar? : List Char → Option (Char × List Char)
  | [] => none
  | char :: rest =>
    if char = '\\' then rest.head?.map fun letter => readEscape letter rest.tail
    else some (char, rest)

theorem readQuotedChar?_codeEscape (char : Char) (rest : List Char) :
    readQuotedChar? (codeEscape char.toNat ++ rest) = some (char, rest) := by
  unfold codeEscape
  split
  · rename_i small
    exact congrArg some (readCode_hexDigits 2 small rest)
  · split
    · rename_i small
      exact congrArg some (readCode_hexDigits 4 small rest)
    · exact congrArg some (readCode_hexDigits 8 char.val.toNat_lt rest)

theorem quoteMark_eq (text : List Char) : quoteMark text = '\'' ∨ quoteMark text = '"' := by
  unfold quoteMark
  split
  · exact .inr rfl
  · exact .inl rfl

section Mark

variable {mark : Char} (quote : mark = '\'' ∨ mark = '"')

include quote

/-- **One character between quote marks is read back**, whatever follows it. -/
theorem readQuotedChar?_quotedChar (char : Char) (rest : List Char) :
    readQuotedChar? (quotedChar mark char ++ rest) = some (char, rest) := by
  unfold quotedChar
  split
  · rename_i escaped
    rcases Bool.or_eq_true_iff.mp escaped with same | same
    · rw [eq_of_beq same]
      rcases quote with rfl | rfl
      · rfl
      · rfl
    · rw [eq_of_beq same]
      rfl
  · rename_i unescaped
    split
    · rename_i same
      rw [eq_of_beq same]
      rfl
    · split
      · rename_i same
        rw [eq_of_beq same]
        rfl
      · split
        · rename_i same
          rw [eq_of_beq same]
          rfl
        · split
          · have plain : char ≠ '\\' := by
              rintro rfl
              exact unescaped (Bool.or_true _)
            exact if_neg plain
          · exact readQuotedChar?_codeEscape char rest

/-- No character is written with the mark in front. -/
theorem quotedChar_append_ne (char : Char) (rest other : List Char) :
    quotedChar mark char ++ rest ≠ mark :: other := by
  intro same
  have read := readQuotedChar?_quotedChar quote char rest
  have plain : mark ≠ '\\' := by
    rcases quote with rfl | rfl
    · decide
    · decide
  rw [same, readQuotedChar?, if_neg plain] at read
  cases read
  unfold quotedChar at same
  rw [if_pos (by simp)] at same
  exact plain (List.cons.inj same).1.symm

/-- What stands between quote marks ends at the second one. -/
theorem between_append_inj {first second left right : List Char}
    (same : first.flatMap (quotedChar mark) ++ mark :: left =
      second.flatMap (quotedChar mark) ++ mark :: right) : first = second ∧ left = right := by
  induction first generalizing second with
  | nil =>
    cases second with
    | nil => exact ⟨rfl, (List.cons.inj same).2⟩
    | cons char rest =>
      rw [List.flatMap_cons, List.append_assoc] at same
      exact absurd same.symm (quotedChar_append_ne quote char _ _)
  | cons char rest hypothesis =>
    rw [List.flatMap_cons, List.append_assoc] at same
    cases second with
    | nil => exact absurd same (quotedChar_append_ne quote char _ _)
    | cons other more =>
      rw [List.flatMap_cons, List.append_assoc] at same
      have read := congrArg readQuotedChar? same
      rw [readQuotedChar?_quotedChar quote, readQuotedChar?_quotedChar quote] at read
      obtain ⟨rfl, behind⟩ := Prod.mk.inj (Option.some.inj read)
      obtain ⟨rfl, here⟩ := hypothesis behind
      exact ⟨rfl, here⟩

end Mark

/-! ### Texts -/

/-- **A quoted text shows what it quotes and where it ends**, whatever follows it. -/
theorem quotedList_append_inj {first second left right : List Char}
    (same : quotedList first ++ left = quotedList second ++ right) :
    first = second ∧ left = right := by
  have shape : ∀ text rest, quotedList text ++ rest =
      quoteMark text :: (text.flatMap (quotedChar (quoteMark text)) ++ quoteMark text :: rest) :=
    fun text rest => by simp [quotedList]
  rw [shape, shape] at same
  obtain ⟨marks, between⟩ := List.cons.inj same
  rw [marks] at between
  exact between_append_inj (quoteMark_eq second) between

end Mustache.Text
