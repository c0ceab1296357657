import AvailabilityGate.Decimal.Shortest

/-!
Owns decimal digits as they come out of 64-bit arithmetic: few digits that read back to a binary
number, mostly but not always the fewest and nearest.

The number is multiplied by a power of ten, both held to 64 bits. The digits are those of the upper
end of the interval that reads back, cut at the first place where what is left fits the interval.
The last digit then moves toward the number, unless nine or more digits stand behind the point of
the product.

Does not own how digits are written: see `Layout`.
-/

namespace AvailabilityGate.Decimal

/-- A number `significand * 2 ^ exponent` with a significand of 64 bits. -/
structure Wide where
  significand : Nat
  exponent : Int
deriving DecidableEq, Repr

namespace Wide

/-- A positive number, shifted up to 64 bits. -/
def normalize (significand : Nat) (exponent : Int) : Wide :=
  let shift := 63 - significand.log2
  ⟨significand * Nat.pow 2 shift, exponent - shift⟩

/-- The quotient of two numbers to the nearest whole one. -/
def divideNearest (numerator denominator : Nat) : Nat :=
  (2 * numerator + denominator) / (2 * denominator)

/-- The power of ten with an exponent that is not negative, to the nearest 64 bits. -/
def powerUp (k : Nat) : Wide :=
  let exponent : Int := ((Nat.pow 10 k).log2 : Int) - 63
  ⟨divideNearest (Nat.pow 10 k * Nat.pow 2 (-exponent).toNat) (Nat.pow 2 exponent.toNat), exponent⟩

/-- The power of ten with a negative exponent, to the nearest 64 bits. -/
def powerDown (k : Nat) : Wide :=
  let bits : Nat := (Nat.pow 10 k).log2 + 64
  ⟨divideNearest (Nat.pow 2 bits) (Nat.pow 10 k), -(bits : Int)⟩

def powerOfTen : Int → Wide
  | .ofNat k => powerUp k
  | .negSucc k => powerDown (k + 1)

/-- The product to the nearest 64 bits; both factors are normal. -/
def times (left right : Wide) : Wide :=
  ⟨(left.significand * right.significand + 0x8000000000000000) / 0x10000000000000000,
    left.exponent + right.exponent + 64⟩

end Wide

/-- The exponent of the power of ten that brings the point of a product between 32 and 60 places
from the right end: every eighth power is at hand. -/
def scaleFor (exponent : Int) : Int :=
  let one := 100000000000000000
  let wanted := ((-61 - exponent) * 30102999566398114 + 347 * one + (one - 1)) / one
  (wanted / 8 + 1) * 8 - 348

/-- The part of a scaled number that is decided: its upper end, the width of its interval and the
way from the number up to that end, all in units of `2 ^ -places`. -/
structure ScaledEnd where
  upper : Nat
  width : Nat
  fromNumber : Nat
  places : Nat
deriving DecidableEq, Repr

namespace ScaledEnd

/-- Lowers the last digit while that comes closer to the number and stays in the interval; `rest`
is what the digits leave of the upper end. -/
def lower (width fromNumber unit : Nat) : Nat → Nat → Nat → Nat
  | 0, _, digits => digits
  | fuel + 1, rest, digits =>
      if rest < fromNumber ∧ rest + unit ≤ width ∧
          (rest + unit < fromNumber ∨ 2 * rest + unit < 2 * fromNumber) then
        lower width fromNumber unit fuel (rest + unit) (digits - 1)
      else digits

/-- The digits down to the place of `10 ^ place` before the point. -/
def cutWhole (number : ScaledEnd) (place : Nat) : Option Digits :=
  let unit := Nat.pow 10 place * Nat.pow 2 number.places
  let rest := number.upper % unit
  if rest ≤ number.width then
    some ⟨lower number.width number.fromNumber unit 10 rest (number.upper / unit), place⟩
  else none

/-- The digits down to the given place behind the point. -/
def cutFraction (number : ScaledEnd) (place : Nat) : Option Digits :=
  let scale := Nat.pow 10 place
  let unit := Nat.pow 2 number.places
  let rest := number.upper * scale % unit
  if rest < number.width * scale then
    let fromNumber := if place < 9 then number.fromNumber * scale else 0
    some ⟨lower (number.width * scale) fromNumber unit 10 rest (number.upper * scale / unit),
      -(place : Int)⟩
  else none

/-- The digits down to the first place where what is left fits the interval. -/
def digits (number : ScaledEnd) : Digits :=
  let whole := (toString (number.upper / Nat.pow 2 number.places)).length
  let found := ((List.range whole).reverse.findSome? number.cutWhole).orElse fun _ =>
    (List.range 20).findSome? fun n => number.cutFraction (n + 1)
  found.getD ⟨number.upper / Nat.pow 2 number.places, 0⟩

end ScaledEnd

/-- The ends of the interval that reads back, the upper one normal and the lower one to the same
exponent. -/
def Binary.ends (number : Binary) : Wide × Wide :=
  let upper := Wide.normalize (2 * number.mantissa + 1) (number.exponent - 1)
  let lower : Wide :=
    if number.mantissa = implicitBit then ⟨4 * number.mantissa - 1, number.exponent - 2⟩
    else ⟨2 * number.mantissa - 1, number.exponent - 1⟩
  let shift := (lower.exponent - upper.exponent).toNat
  (⟨lower.significand * Nat.pow 2 shift, upper.exponent⟩, upper)

/-- The number times a power of ten, with the interval narrowed by the error of the product. -/
def Binary.scaledEnd (number : Binary) (power : Wide) : ScaledEnd :=
  let (low, high) := number.ends
  let middle := (Wide.normalize number.mantissa number.exponent).times power
  let high := high.times power
  let upper := high.significand - 1
  { upper
    width := upper - ((low.times power).significand + 1)
    fromNumber := upper - middle.significand
    places := (-high.exponent).toNat }

/-- The digits of a positive number in 64-bit arithmetic. -/
def Binary.scaled (number : Binary) : Digits :=
  let scale := scaleFor number.ends.2.exponent
  let found := (number.scaledEnd (Wide.powerOfTen scale)).digits
  ⟨found.digits, found.exponent - scale⟩

end AvailabilityGate.Decimal
