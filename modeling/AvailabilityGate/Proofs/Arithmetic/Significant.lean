import AvailabilityGate.Arithmetic.Significant
import Mathlib.Data.Rat.Floor
import Mathlib.Tactic.Linarith
import Mathlib.Tactic.Positivity

/-!
Owns what rounding to significant bits does to a number: how far it moves a number, and which
numbers it leaves alone.

Main statements: a number moves by at most half a unit of its last bit, relative to its size, and a
whole number that fits the bits does not move.
-/

namespace AvailabilityGate.Arithmetic

/-! ### The nearest whole number -/

theorem abs_nearestEven_sub_le (value : Rat) : |(nearestEven value : Rat) - value| ≤ 1 / 2 := by
  have floorBelow := Rat.floor_le value
  have floorClose := Rat.lt_floor_add_one value
  push_cast at floorClose
  rw [abs_le]
  simp only [nearestEven]
  split_ifs <;> push_cast <;> constructor <;> linarith

theorem nearestEven_intCast (number : Int) : nearestEven number = number := by
  simp [nearestEven, Rat.floor_intCast]

/-! ### The leading bit -/

theorem ratAbs_eq_abs (value : Rat) : value.abs = |value| := by
  unfold Rat.abs
  split
  · next nonnegative => exact (abs_of_nonneg nonnegative).symm
  · next negative => exact (abs_of_nonpos (le_of_not_ge negative)).symm

theorem abs_mul_den (value : Rat) : |value| * value.den = (value.num.natAbs : Rat) := by
  have denominator : |(value.den : Rat)| = value.den := abs_of_nonneg (Nat.cast_nonneg _)
  rw [← denominator, ← abs_mul, Rat.mul_den_eq_num, Nat.cast_natAbs, Int.cast_abs]

/-- A positive natural number lies between two neighbouring powers of two. -/
theorem log2_bounds {number : Nat} (nonzero : number ≠ 0) :
    (2 : Rat) ^ (number.log2 : Int) ≤ number ∧ (number : Rat) < 2 ^ ((number.log2 : Int) + 1) := by
  constructor
  · exact_mod_cast Nat.log2_self_le nonzero
  · exact_mod_cast Nat.lt_log2_self (n := number)

/-- The leading powers of dividend and divisor give that of the quotient up to a factor of two. -/
theorem quotient_between {dividend divisor quotient : Rat} {top bottom : Int}
    (divides : quotient * divisor = dividend) (positive : 0 < quotient)
    (dividendBetween : 2 ^ top ≤ dividend ∧ dividend < 2 ^ (top + 1))
    (divisorBetween : 2 ^ bottom ≤ divisor ∧ divisor < 2 ^ (bottom + 1)) :
    2 ^ (top - bottom - 1) < quotient ∧ quotient < 2 ^ (top - bottom + 1) := by
  have split : ∀ first second : Int, (2 : Rat) ^ (first + second) = 2 ^ first * 2 ^ second :=
    fun first second => zpow_add₀ two_ne_zero first second
  constructor
  · have scaled : (2 : Rat) ^ (top - bottom - 1) * 2 ^ (bottom + 1) < quotient * 2 ^ (bottom + 1) := by
      calc (2 : Rat) ^ (top - bottom - 1) * 2 ^ (bottom + 1)
          = 2 ^ top := by rw [← split]; congr 1; omega
        _ ≤ quotient * divisor := by rw [divides]; exact dividendBetween.1
        _ < quotient * 2 ^ (bottom + 1) := by gcongr; exact divisorBetween.2
    exact lt_of_mul_lt_mul_right scaled (zpow_nonneg zero_le_two _)
  · have scaled : quotient * 2 ^ bottom < (2 : Rat) ^ (top - bottom + 1) * 2 ^ bottom := by
      calc quotient * 2 ^ bottom ≤ quotient * divisor := by gcongr; exact divisorBetween.1
        _ < 2 ^ (top + 1) := by rw [divides]; exact dividendBetween.2
        _ = 2 ^ (top - bottom + 1) * 2 ^ bottom := by rw [← split]; congr 1; omega
    exact lt_of_mul_lt_mul_right scaled (zpow_nonneg zero_le_two _)

theorem leadingExponent_spec {value : Rat} (nonzero : value ≠ 0) :
    (2 : Rat) ^ leadingExponent value ≤ |value| ∧
      |value| < (2 : Rat) ^ (leadingExponent value + 1) := by
  obtain ⟨below, above⟩ := quotient_between (abs_mul_den value) (abs_pos.mpr nonzero)
    (log2_bounds (Int.natAbs_ne_zero.mpr (Rat.num_ne_zero.mpr nonzero)))
    (log2_bounds value.den_nz)
  simp only [leadingExponent, ratAbs_eq_abs]
  split
  · next small => exact ⟨below.le, by rwa [Int.sub_add_cancel]⟩
  · next large => exact ⟨not_lt.mp large, above⟩

/-! ### Significant bits -/

theorem toSignificant_of_ne_zero {value : Rat} (nonzero : value ≠ 0) (bits : Nat) :
    toSignificant bits value =
      nearestEven (value / 2 ^ (leadingExponent value - bits + 1)) *
        2 ^ (leadingExponent value - bits + 1) := by
  rw [toSignificant, if_neg nonzero]

/-- The relative error of rounding. -/
theorem abs_toSignificant_sub_le (bits : Nat) (value : Rat) :
    |toSignificant bits value - value| ≤ |value| / 2 ^ bits := by
  by_cases nonzero : value = 0
  · simp [toSignificant, nonzero]
  · rw [toSignificant_of_ne_zero nonzero]
    set exponent := leadingExponent value with exponentIs
    set unit : Rat := 2 ^ (exponent - bits + 1) with unitIs
    have unitPositive : 0 < unit := zpow_pos two_pos _
    have halfUnit : unit / 2 = 2 ^ exponent / 2 ^ bits := by
      rw [unitIs, zpow_add_one₀ two_ne_zero, zpow_sub₀ two_ne_zero, zpow_natCast]
      ring
    have shifted : nearestEven (value / unit) * unit - value =
        (nearestEven (value / unit) - value / unit) * unit := by
      field_simp
    calc |nearestEven (value / unit) * unit - value|
        = |(nearestEven (value / unit) : Rat) - value / unit| * unit := by
          rw [shifted, abs_mul, abs_of_pos unitPositive]
      _ ≤ 1 / 2 * unit := by gcongr; exact abs_nearestEven_sub_le _
      _ = 2 ^ exponent / 2 ^ bits := by rw [← halfUnit]; ring
      _ ≤ |value| / 2 ^ bits := by gcongr; exact (leadingExponent_spec nonzero).1

/-- A whole number that fits the bits stays as it is. -/
theorem toSignificant_intCast {bits : Nat} {number : Int} (fits : |number| < 2 ^ bits) :
    toSignificant bits number = number := by
  by_cases zero : number = 0
  · simp [toSignificant, zero]
  · have nonzero : (number : Rat) ≠ 0 := Int.cast_ne_zero.mpr zero
    obtain ⟨leading, _⟩ := leadingExponent_spec nonzero
    have exponentBelow : leadingExponent (number : Rat) < bits := by
      have powers : (2 : Rat) ^ leadingExponent (number : Rat) < 2 ^ (bits : Int) := by
        refine leading.trans_lt ?_
        rw [zpow_natCast]
        exact_mod_cast fits
      exact (zpow_lt_zpow_iff_right₀ one_lt_two).mp powers
    -- The unit is a fraction with numerator one, so dividing by it gives a whole number.
    obtain ⟨shift, shiftIs⟩ : ∃ shift : Nat, leadingExponent (number : Rat) - bits + 1 = -shift :=
      ⟨(bits - 1 - leadingExponent (number : Rat)).toNat, by omega⟩
    rw [toSignificant_of_ne_zero nonzero, shiftIs, zpow_neg, zpow_natCast, div_inv_eq_mul]
    have whole : (number : Rat) * 2 ^ shift = ((number * 2 ^ shift : Int) : Rat) := by push_cast; ring
    rw [whole, nearestEven_intCast, ← whole, mul_assoc, mul_inv_cancel₀ (by positivity), mul_one]

end AvailabilityGate.Arithmetic
