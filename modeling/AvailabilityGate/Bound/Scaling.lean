import AvailabilityGate.Arithmetic.Significant
import AvailabilityGate.Bound.Basic
import AvailabilityGate.Bound.Percentage

/-!
Owns the resolution of a bound to a number of pods.

A percentage is taken of a total in two steps of 64-bit floating point, a product and a quotient,
then rounded to a whole number and held within 32 bits.
-/

namespace AvailabilityGate

inductive Rounding where
  | up
  | down
deriving DecidableEq, Repr

/-- A bound that is neither a count nor a percentage. -/
inductive BoundFault where
  | notPercentage (text : String)
deriving DecidableEq, Repr

def BoundFault.message : BoundFault → String
  | .notPercentage text =>
      "invalid value for IntOrString: " ++ Text.quoted text ++ " is not a percentage"

def Rounding.apply : Rounding → Rat → Int
  | .up, value => value.ceil
  | .down, value => value.floor

/-- The nearest number that fits 32 bits with sign. -/
def clampInt32 (value : Int) : Int32 :=
  Int32.ofInt (max (-2147483648) (min value 2147483647))

namespace Bound

/-- The significant bits of a 64-bit float. -/
def floatBits : Nat := 53

/-- So many percent of a total, in floating point. -/
def percentOf (percent total : Int32) : Rat :=
  let product := Arithmetic.toSignificant floatBits (percent.toInt * total.toInt)
  Arithmetic.toSignificant floatBits (product / 100)

/-- The count that a bound stands for, given the total that a percentage refers to. -/
def resolve (rounding : Rounding) (total : Int32) : Bound → Except BoundFault Int32
  | .count value => .ok value
  | .text written =>
      match Percentage.parse? written with
      | none => .error (.notPercentage written)
      | some percent => .ok (clampInt32 (rounding.apply (percentOf percent total)))

end Bound

end AvailabilityGate
