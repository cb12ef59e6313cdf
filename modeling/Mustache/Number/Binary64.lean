/-!
**Binary floating-point numbers of 64 bits.**

A number is its bits: a sign, an exponent field of eleven bits and a fraction of fifty-two. All
arithmetic here is exact, on natural numbers.

* `Binary64.significand`, `Binary64.scale`: a finite number is significand times two to the scale.
* `Binary64.ofRatio`: the number nearest to a ratio, a tie going to the even neighbour.
* `Binary64.ofDecimal`: the number nearest to a decimal.
-/

namespace Mustache

/-- A binary floating-point number, as its bits. -/
structure Binary64 where
  bits : UInt64
  deriving DecidableEq, Repr

namespace Binary64

/-- The sign bit. -/
def isNegative (number : Binary64) : Bool := number.bits.toNat / Nat.pow 2 63 == 1

/-- The exponent field. -/
def exponentField (number : Binary64) : Nat := number.bits.toNat / Nat.pow 2 52 % Nat.pow 2 11

/-- The fraction field. -/
def fraction (number : Binary64) : Nat := number.bits.toNat % Nat.pow 2 52

/-- The number is infinite or no number at all. -/
def isSpecial (number : Binary64) : Bool := number.exponentField == 2047

/-- Not a number. -/
def isNaN (number : Binary64) : Bool := number.isSpecial && number.fraction != 0

/-- Positive or negative zero. -/
def isZero (number : Binary64) : Bool := number.exponentField == 0 && number.fraction == 0

/-- The significand of a finite number. -/
def significand (number : Binary64) : Nat :=
  if number.exponentField = 0 then number.fraction else number.fraction + Nat.pow 2 52

/-- The power of two that a finite number's significand is multiplied by. -/
def scale (number : Binary64) : Int := (max number.exponentField 1 : Nat) - 1075

/-- A number from its sign and its other bits. -/
def ofParts (negative : Bool) (magnitude : Nat) : Binary64 :=
  ⟨UInt64.ofNat (if negative then Nat.pow 2 63 + magnitude else magnitude)⟩

/-- Infinity. -/
def infinity (negative : Bool) : Binary64 := ofParts negative (2047 * Nat.pow 2 52)

/-- A value that is not a number. -/
def notANumber : Binary64 := ofParts false (2047 * Nat.pow 2 52 + Nat.pow 2 51)

/-- Positive zero. -/
def zero : Binary64 := ofParts false 0

/-- Positive one. -/
def one : Binary64 := ofParts false (1023 * Nat.pow 2 52)

/-- A quotient rounded to the nearest natural number, a tie to the even one. -/
def roundedQuotient (numerator denominator : Nat) : Nat :=
  let quotient := numerator / denominator
  let twice := 2 * (numerator % denominator)
  if twice < denominator then quotient
  else if denominator < twice then quotient + 1
  else quotient + quotient % 2

/-- A ratio divided by a power of two, as numerator and denominator. -/
def scaledRatio (numerator denominator : Nat) (power : Int) : Nat × Nat :=
  if 0 ≤ power then (numerator, denominator * Nat.pow 2 power.toNat)
  else (numerator * Nat.pow 2 power.natAbs, denominator)

/-- **The number nearest to a ratio**, a tie going to the even neighbour. The scale is chosen so
that the significand has fifty-three bits, unless that would take it below the least scale. -/
def ofRatio (negative : Bool) (numerator denominator : Nat) : Binary64 :=
  if numerator = 0 then ofParts negative 0
  else
    let estimate : Int := (numerator.log2 : Int) - denominator.log2 - 52
    let (upper, lower) := scaledRatio numerator denominator estimate
    let power := max (if upper / lower < Nat.pow 2 52 then estimate - 1 else estimate) (-1074)
    let (upper, lower) := scaledRatio numerator denominator power
    let rounded := roundedQuotient upper lower
    let magnitude :=
      if rounded < Nat.pow 2 52 then rounded else (power + 1074).toNat * Nat.pow 2 52 + rounded
    if magnitude < 2047 * Nat.pow 2 52 then ofParts negative magnitude else infinity negative

/-- **The number nearest to a decimal** with these digits and this power of ten. A decimal of more
than 310 places is infinite, and one that starts after 330 places is zero. -/
def ofDecimal (negative : Bool) (digits : Nat) (power : Int) : Binary64 :=
  let size := power + (Nat.toDigits 10 digits).length
  if digits = 0 ∨ size < -330 then ofParts negative 0
  else if 310 < size then infinity negative
  else if 0 ≤ power then ofRatio negative (digits * Nat.pow 10 power.toNat) 1
  else ofRatio negative digits (Nat.pow 10 power.natAbs)

/-- The number is finite and whole. -/
def isWhole (number : Binary64) : Bool :=
  !number.isSpecial &&
    (0 ≤ number.scale || number.significand % Nat.pow 2 number.scale.natAbs == 0)

/-- The whole number a finite whole number equals. -/
def toInt? (number : Binary64) : Option Int :=
  if !number.isWhole then none
  else
    let size : Nat :=
      if 0 ≤ number.scale then number.significand * Nat.pow 2 number.scale.toNat
      else number.significand / Nat.pow 2 number.scale.natAbs
    some (if number.isNegative then -(size : Int) else size)

end Binary64

end Mustache
