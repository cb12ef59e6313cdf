import Mustache.Number.Binary64
import Mustache.Text.Quoted

/-!
**The text of a floating-point number.**

A number is written with the fewest decimal digits that read back as the same number, and of those
decimals the one nearest to it; of two that are equally near, the one with an even last digit.

* `Shortest.decimal`: these digits and their power of ten.
* `Binary64.text`: the digits laid out, positionally or with an exponent.
* `Binary64.hexText`: the exact number in hexadecimal.
-/

namespace Mustache

namespace Shortest

/-- Whether `digits · 10 ^ power` reads back as `significand · 2 ^ scale`. The decimals that do are
those up to half a step away, and the ends of this interval count when the significand is even.
The step below a power of two is half as wide. All is compared in quarters of a step. -/
def readsBack (significand : Nat) (scale : Int) (digits : Nat) (power : Int) : Bool :=
  let narrow := significand == Nat.pow 2 52 && -1074 < scale
  let low := 4 * significand - (if narrow then 1 else 2)
  let high := 4 * significand + 2
  let tens := fun (exponent : Int) => Nat.pow 10 exponent.toNat
  let twos := fun (exponent : Int) => Nat.pow 2 exponent.toNat
  let decimal := digits * tens power * twos (2 - scale)
  let lowest := low * tens (-power) * twos (scale - 2)
  let highest := high * tens (-power) * twos (scale - 2)
  if significand % 2 = 0 then lowest ≤ decimal && decimal ≤ highest
  else lowest < decimal && decimal < highest

/-- The multiples of `10 ^ power` next to a number: how many of them reach up to it, and which of
this and the next one is nearest; the even one if both are. -/
structure GridPlace where
  below : Nat
  nearest : Nat

/-- The place of `significand · 2 ^ scale` among the multiples of `10 ^ power`. -/
def GridPlace.of (significand : Nat) (scale power : Int) : GridPlace :=
  let numerator := significand * Nat.pow 2 scale.toNat * Nat.pow 10 (-power).toNat
  let denominator := Nat.pow 2 (-scale).toNat * Nat.pow 10 power.toNat
  let below := numerator / denominator
  let twice := 2 * (numerator % denominator)
  let roundsUp := if twice = denominator then below % 2 = 1 else denominator < twice
  ⟨below, if roundsUp then below + 1 else below⟩

/-- The multiple of `10 ^ power` that reads back; of two, the nearest. -/
def onGrid? (significand : Nat) (scale power : Int) : Option Nat :=
  let place := GridPlace.of significand scale power
  let belowFits := readsBack significand scale place.below power
  let aboveFits := readsBack significand scale (place.below + 1) power
  match belowFits, aboveFits with
  | true, true => some place.nearest
  | true, false => some place.below
  | false, true => some (place.below + 1)
  | false, false => none

/-- A power of ten above `significand · 2 ^ scale`. -/
def topPower (significand : Nat) (scale : Int) : Int :=
  ((significand.log2 : Int) + scale + 1) * 30103 / 100000 + 1

/-- The first grid with a neighbour that reads back, from a power of ten downwards. -/
def search (significand : Nat) (scale : Int) : Nat → Int → Nat × Int
  | 0, power => (0, power)
  | steps + 1, power =>
    match onGrid? significand scale power with
    | some digits => (digits, power)
    | none => search significand scale steps (power - 1)

/-- **The fewest digits that read back**, and their power of ten. -/
def decimal (significand : Nat) (scale : Int) : Nat × Int :=
  search significand scale 24 (topPower significand scale)

end Shortest

namespace Binary64

/-- An exponent with its sign and at least two digits. -/
def exponentText (exponent : Int) : String :=
  let size := toString exponent.natAbs
  (if exponent < 0 then "-" else "+") ++ (if size.length < 2 then "0" ++ size else size)

/-- Digits laid out: positionally from `1e-4` up to below `1e16`, always with a point, and with an
exponent otherwise. -/
def layout (digits : Nat) (power : Int) : String :=
  let shown := toString digits
  let point := power + shown.length
  let zeros := fun (count : Nat) => String.ofList (List.replicate count '0')
  if point < -3 ∨ 16 < point then
    let first := String.ofList (shown.toList.take 1)
    let others := String.ofList (shown.toList.drop 1)
    first ++ (if others.isEmpty then "" else "." ++ others) ++ "e" ++ exponentText (point - 1)
  else if point ≤ 0 then "0." ++ zeros point.natAbs ++ shown
  else if shown.length ≤ point.toNat then shown ++ zeros (point.toNat - shown.length) ++ ".0"
  else
    String.ofList (shown.toList.take point.toNat) ++ "." ++
      String.ofList (shown.toList.drop point.toNat)

/-- **The text of a number.** -/
def text (number : Binary64) : String :=
  let sign := if number.isNegative then "-" else ""
  if number.isNaN then "nan"
  else if number.isSpecial then sign ++ "inf"
  else if number.isZero then sign ++ "0.0"
  else
    let (digits, power) := Shortest.decimal number.significand number.scale
    sign ++ layout digits power

/-- The exact number in hexadecimal, with a binary exponent. -/
def hexText (number : Binary64) : String :=
  let sign := if number.isNegative then "-" else ""
  if number.isNaN then "nan"
  else if number.isSpecial then sign ++ "inf"
  else if number.isZero then sign ++ "0x0.0p+0"
  else
    let exponent : Int := (max number.exponentField 1 : Nat) - 1023
    let lead := if number.exponentField = 0 then "0x0." else "0x1."
    sign ++ lead ++ String.ofList (Text.hexDigits 13 number.fraction) ++ "p" ++
      (if exponent < 0 then "-" else "+") ++ toString exponent.natAbs

end Binary64

end Mustache
