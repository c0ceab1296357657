/-!
Owns the rounding of a rational number to a fixed number of significant bits, to nearest with ties
to even. With 53 bits this is what one operation on 64-bit floats does to its exact result, as long
as the result is neither too large nor too small for the format.
-/

namespace AvailabilityGate.Arithmetic

/-- The exponent of the leading bit: `2 ^ e ≤ |value| < 2 ^ (e + 1)` for a value other than 0. -/
def leadingExponent (value : Rat) : Int :=
  let guess := (value.num.natAbs.log2 : Int) - value.den.log2
  if value.abs < (2 : Rat) ^ guess then guess - 1 else guess

/-- The nearest whole number, the even one of two equally near. -/
def nearestEven (value : Rat) : Int :=
  let below := value.floor
  let rest := value - below
  if rest < 1 / 2 then below
  else if 1 / 2 < rest then below + 1
  else if below % 2 = 0 then below
  else below + 1

/-- The nearest number with at most so many significant bits. -/
def toSignificant (bits : Nat) (value : Rat) : Rat :=
  if value = 0 then 0
  else
    let unit := (2 : Rat) ^ (leadingExponent value - bits + 1)
    nearestEven (value / unit) * unit

end AvailabilityGate.Arithmetic
