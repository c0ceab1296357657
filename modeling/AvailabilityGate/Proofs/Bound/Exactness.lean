import AvailabilityGate.Bound.Scaling
import AvailabilityGate.Proofs.Arithmetic.Significant
import AvailabilityGate.Proofs.Bound.Percentage

/-!
Owns the exactness of percentages: the two roundings of floating point never change the count that
a percentage of a total comes to.

Up to 53 bits the product is exact, and the quotient by 100 is either whole, and then exact too, or
at least 1/100 away from any whole number, which is more than the quotient is off. Beyond 53 bits
both the exact quotient and the one in floating point lie outside 32 bits, on the same side.

Main statement: a percentage resolves to the exact quotient, rounded to a whole number and held
within 32 bits; so it is monotone in both factors, and rounding up and down differ by one at most.
-/

namespace AvailabilityGate

/-! ### Rounding to a whole number and to 32 bits -/

namespace Rounding

/-- Strictly between two neighbouring whole numbers, the value itself does not matter. -/
theorem apply_of_between (rounding : Rounding) {number : Int} {value : Rat}
    (above : (number : Rat) < value) (below : value < number + 1) :
    rounding.apply value = match rounding with
      | .up => number + 1
      | .down => number := by
  cases rounding with
  | up =>
      refine le_antisymm (Rat.ceil_le_iff.mpr ?_) (Rat.lt_ceil_iff.mpr above)
      push_cast
      exact below.le
  | down =>
      have floorLow : value.floor < number + 1 := by
        have floorBelow := (Rat.floor_le value).trans_lt below
        exact_mod_cast floorBelow
      exact le_antisymm (Int.lt_add_one_iff.mp floorLow) (Rat.le_floor_iff.mpr above.le)

theorem apply_intCast (rounding : Rounding) (number : Int) : rounding.apply number = number := by
  cases rounding with
  | up => exact Rat.ceil_intCast number
  | down => exact Rat.floor_intCast number

theorem apply_mono (rounding : Rounding) {first second : Rat} (ordered : first ≤ second) :
    rounding.apply first ≤ rounding.apply second := by
  cases rounding with
  | up => exact Rat.ceil_le_iff.mpr (ordered.trans Rat.le_ceil)
  | down => exact Rat.le_floor_iff.mpr ((Rat.floor_le first).trans ordered)

end Rounding

/-- The nearest number that fits 32 bits with sign, as a whole number. -/
def saturated (value : Int) : Int :=
  max (-2 ^ 31) (min value (2 ^ 31 - 1))

theorem toInt_clampInt32 (value : Int) : (clampInt32 value).toInt = saturated value := by
  unfold clampInt32 saturated
  rw [Int32.toInt_ofInt_of_le (by omega) (by omega)]
  omega

theorem saturated_mono {first second : Int} (ordered : first ≤ second) :
    saturated first ≤ saturated second := by
  unfold saturated
  omega

namespace Bound

open Arithmetic

/-! ### Near the exact quotient -/

section Close

variable {product : Int} {quotient : Rat}

/-- A quotient that is off by less than 1/100, and by nothing where it has to be whole, is rounded
to the same whole number as the exact one. -/
theorem apply_eq_of_close (close : |quotient - product / 100| < 1 / 100)
    (whole : ∀ number : Int, product = 100 * number → quotient = number) (rounding : Rounding) :
    rounding.apply quotient = rounding.apply (product / 100) := by
  have divided := Int.mul_ediv_add_emod product 100
  have restLow := Int.emod_nonneg product (b := 100) (by decide)
  have restHigh := Int.emod_lt_of_pos product (b := 100) (by decide)
  set number := product / 100
  set rest := product % 100
  have exact : (product : Rat) / 100 = number + rest / 100 := by
    rw [← divided]
    push_cast
    ring
  by_cases noRest : rest = 0
  · rw [whole number (by omega), exact, noRest]
    simp
  · have restAbove : (1 : Rat) ≤ rest := by exact_mod_cast (by omega : 1 ≤ rest)
    have restBelow : (rest : Rat) ≤ 99 := by exact_mod_cast (by omega : rest ≤ 99)
    rw [exact] at close ⊢
    obtain ⟨lower, upper⟩ := abs_lt.mp close
    have quotientBetween : (number : Rat) < quotient ∧ quotient < number + 1 := by
      constructor <;> linarith
    have exactBetween : (number : Rat) < number + rest / 100 ∧
        (number : Rat) + rest / 100 < number + 1 := by
      constructor <;> linarith
    rw [rounding.apply_of_between quotientBetween.1 quotientBetween.2,
      rounding.apply_of_between exactBetween.1 exactBetween.2]

end Close

/-! ### Far from 32 bits -/

theorem clampInt32_apply_of_ge {value : Rat} (large : 2 ^ 31 ≤ value) (rounding : Rounding) :
    clampInt32 (rounding.apply value) = 2147483647 := by
  have rounded : 2 ^ 31 ≤ rounding.apply value := by
    have bound : ((2 ^ 31 : Int) : Rat) ≤ value := by exact_mod_cast large
    rw [← rounding.apply_intCast (2 ^ 31)]
    exact rounding.apply_mono bound
  have clamped : max (-2147483648) (min (rounding.apply value) 2147483647) = 2147483647 := by
    omega
  rw [clampInt32, clamped]
  rfl

theorem clampInt32_apply_of_le {value : Rat} (small : value ≤ -2 ^ 31) (rounding : Rounding) :
    clampInt32 (rounding.apply value) = -2147483648 := by
  have rounded : rounding.apply value ≤ -2 ^ 31 := by
    have bound : value ≤ ((-2 ^ 31 : Int) : Rat) := by exact_mod_cast small
    rw [← rounding.apply_intCast (-2 ^ 31)]
    exact rounding.apply_mono bound
  have clamped : max (-2147483648) (min (rounding.apply value) 2147483647) = -2147483648 := by
    omega
  rw [clampInt32, clamped]
  rfl

/-- Rounding to the bits of a float keeps the sign and at least half of the size. -/
theorem half_le_toSignificant {value : Rat} (nonnegative : 0 ≤ value) :
    value / 2 ≤ toSignificant floatBits value := by
  have error := abs_toSignificant_sub_le floatBits value
  rw [abs_of_nonneg nonnegative] at error
  have bits : value / 2 ^ floatBits ≤ value / 2 := by gcongr; norm_num [floatBits]
  linarith [(abs_le.mp error).1]

theorem toSignificant_le_half {value : Rat} (nonpositive : value ≤ 0) :
    toSignificant floatBits value ≤ value / 2 := by
  have error := abs_toSignificant_sub_le floatBits value
  rw [abs_of_nonpos nonpositive] at error
  have bits : -value / 2 ^ floatBits ≤ -value / 2 := by gcongr; linarith; norm_num [floatBits]
  linarith [(abs_le.mp error).2]

/-! ### Both together -/

theorem percentOf_eq (percent total : Int32) :
    percentOf percent total = toSignificant floatBits
      (toSignificant floatBits ((percent.toInt * total.toInt : Int) : Rat) / 100) := by
  rw [percentOf]
  push_cast
  rfl

/-- Where the product fits a float, the count in floating point is the exact one. -/
theorem apply_percentOf_of_fits {percent total : Int32}
    (fits : |percent.toInt * total.toInt| < 2 ^ floatBits) (rounding : Rounding) :
    rounding.apply (percentOf percent total) =
      rounding.apply (((percent.toInt * total.toInt : Int) : Rat) / 100) := by
  rw [percentOf_eq, toSignificant_intCast fits]
  set product := percent.toInt * total.toInt
  refine apply_eq_of_close ?_ ?_ rounding
  · have size : |(product : Rat)| < 2 ^ floatBits := by exact_mod_cast fits
    calc |toSignificant floatBits (product / 100) - product / 100|
        ≤ |(product : Rat) / 100| / 2 ^ floatBits := abs_toSignificant_sub_le _ _
      _ = |(product : Rat)| / 2 ^ floatBits * (1 / 100) := by
          rw [abs_div, abs_of_pos (by norm_num : (0 : Rat) < 100)]
          ring
      _ < 1 * (1 / 100) := by gcongr; exact (div_lt_one (by positivity)).mpr size
      _ = 1 / 100 := one_mul _
  · intro number isMultiple
    have numberFits : |number| < 2 ^ floatBits := by
      have sizes : |100 * number| = 100 * |number| := abs_mul 100 number
      have nonnegative := abs_nonneg number
      rw [isMultiple, sizes] at fits
      omega
    have quotient : (product : Rat) / 100 = number := by
      rw [isMultiple]
      push_cast
      ring
    rw [quotient, toSignificant_intCast numberFits]

/-- Held within 32 bits, the count in floating point is always the exact one. -/
theorem clampInt32_apply_percentOf (rounding : Rounding) (percent total : Int32) :
    clampInt32 (rounding.apply (percentOf percent total)) =
      clampInt32 (rounding.apply (((percent.toInt * total.toInt : Int) : Rat) / 100)) := by
  by_cases fits : |percent.toInt * total.toInt| < 2 ^ floatBits
  · rw [apply_percentOf_of_fits fits]
  · rw [percentOf_eq]
    set product := percent.toInt * total.toInt
    rcases le_total 0 product with nonnegative | nonpositive
    · have large : (2 : Rat) ^ floatBits ≤ product := by
        rw [abs_of_nonneg nonnegative] at fits
        exact_mod_cast not_lt.mp fits
      have first := half_le_toSignificant (Int.cast_nonneg nonnegative : (0 : Rat) ≤ product)
      norm_num [floatBits] at large
      have second := half_le_toSignificant
        (by linarith : 0 ≤ toSignificant floatBits (product : Rat) / 100)
      rw [clampInt32_apply_of_ge (by linarith), clampInt32_apply_of_ge (by linarith)]
    · have small : (product : Rat) ≤ -2 ^ floatBits := by
        rw [abs_of_nonpos nonpositive] at fits
        exact_mod_cast (by omega : product ≤ -2 ^ floatBits)
      have first := toSignificant_le_half (Int.cast_nonpos.mpr nonpositive : (product : Rat) ≤ 0)
      norm_num [floatBits] at small
      have second := toSignificant_le_half
        (by linarith : toSignificant floatBits (product : Rat) / 100 ≤ 0)
      rw [clampInt32_apply_of_le (by linarith), clampInt32_apply_of_le (by linarith)]

/-! ### What a percentage resolves to -/

/-- A number of percent, as a manifest gives it. -/
def percentage (percent : Int32) : Bound :=
  .text (toString percent.toInt ++ "%")

/-- The exact quotient, rounded to a whole number and held within 32 bits. -/
def exactCount (percent total : Int32) : Rounding → Int
  | .up => saturated ⌈(percent.toInt * total.toInt / 100 : Rat)⌉
  | .down => saturated ⌊(percent.toInt * total.toInt / 100 : Rat)⌋

theorem resolve_percentage (rounding : Rounding) (percent total : Int32) :
    (percentage percent).resolve rounding total =
      .ok (clampInt32 (rounding.apply (percentOf percent total))) := by
  simp only [percentage, resolve, Percentage.parse?_toString]

theorem toInt_count (rounding : Rounding) (percent total : Int32) :
    (clampInt32 (rounding.apply (percentOf percent total))).toInt =
      exactCount percent total rounding := by
  rw [clampInt32_apply_percentOf, toInt_clampInt32]
  push_cast
  cases rounding with
  | up => exact congrArg saturated (eq_of_forall_ge_iff fun _ => Rat.ceil_le_iff.trans Int.ceil_le.symm)
  | down => rfl

/-- What a percentage resolves to, as a statement about the result. -/
theorem resolve_percentage_eq_ok_iff {rounding : Rounding} {percent total count : Int32} :
    (percentage percent).resolve rounding total = .ok count ↔
      count.toInt = exactCount percent total rounding := by
  rw [resolve_percentage, Except.ok.injEq, ← toInt_count, Int32.toInt_inj, eq_comm]

theorem exactCount_mono {percent other total otherTotal : Int32}
    (ordered : percent.toInt * total.toInt ≤ other.toInt * otherTotal.toInt) (rounding : Rounding) :
    exactCount percent total rounding ≤ exactCount other otherTotal rounding := by
  have quotients : (percent.toInt * total.toInt / 100 : Rat) ≤ other.toInt * otherTotal.toInt / 100 := by
    refine div_le_div_of_nonneg_right ?_ (by norm_num)
    exact_mod_cast ordered
  cases rounding with
  | up => exact saturated_mono (Int.ceil_le_ceil quotients)
  | down => exact saturated_mono (Int.floor_le_floor quotients)

theorem exactCount_down_le_up (percent total : Int32) :
    exactCount percent total .down ≤ exactCount percent total .up ∧
      exactCount percent total .up ≤ exactCount percent total .down + 1 := by
  have ordered := Int.floor_le_ceil (percent.toInt * total.toInt / 100 : Rat)
  have close := Int.ceil_le_floor_add_one (percent.toInt * total.toInt / 100 : Rat)
  simp only [exactCount, saturated]
  omega

/-- So many percent of a total always resolve, and to the exact quotient, rounded to a whole number
and held within 32 bits. The count grows with the percentage of a total that is not negative, and
with the total where the percentage is not negative; rounding up and down are at most one apart. -/
theorem percentage_exact :
    (∀ rounding percent total, ∃ count,
      (percentage percent).resolve rounding total = .ok count ∧
        count.toInt = exactCount percent total rounding) ∧
    (∀ rounding total, 0 ≤ total → ∀ percent greater, percent ≤ greater → ∀ count countOfGreater,
      (percentage percent).resolve rounding total = .ok count →
      (percentage greater).resolve rounding total = .ok countOfGreater →
      count ≤ countOfGreater) ∧
    (∀ rounding percent, 0 ≤ percent → ∀ total greater, total ≤ greater → ∀ count countOfGreater,
      (percentage percent).resolve rounding total = .ok count →
      (percentage percent).resolve rounding greater = .ok countOfGreater →
      count ≤ countOfGreater) ∧
    ∀ percent total low high,
      (percentage percent).resolve .down total = .ok low →
      (percentage percent).resolve .up total = .ok high →
      low ≤ high ∧ high.toInt ≤ low.toInt + 1 := by
  simp only [resolve_percentage_eq_ok_iff, Int32.le_iff_toInt_le]
  refine ⟨?_, ?_, ?_, ?_⟩
  · intro rounding percent total
    exact ⟨_, toInt_count rounding percent total, toInt_count rounding percent total⟩
  · intro rounding total nonnegative percent greater ordered count countOfGreater isCount isGreater
    rw [isCount, isGreater]
    exact exactCount_mono (Int.mul_le_mul_of_nonneg_right ordered nonnegative) rounding
  · intro rounding percent nonnegative total greater ordered count countOfGreater isCount isGreater
    rw [isCount, isGreater]
    exact exactCount_mono (Int.mul_le_mul_of_nonneg_left ordered nonnegative) rounding
  · intro percent total low high isLow isHigh
    rw [isLow, isHigh]
    exact exactCount_down_le_up percent total

/-- Three pods: a third of them is one, and one percent more is two. -/
theorem percentage_exact_threePods :
    (0 : Int32) ≤ 3 ∧ (33 : Int32) ≤ 34 ∧ (percentage 33).resolve .up 3 = .ok 1 ∧
      (percentage 34).resolve .up 3 = .ok 2 ∧ (1 : Int32) ≤ 2 := by
  have third : (percentage 33).resolve .up 3 = .ok 1 :=
    resolve_percentage_eq_ok_iff.mpr (by decide +kernel)
  have more : (percentage 34).resolve .up 3 = .ok 2 :=
    resolve_percentage_eq_ok_iff.mpr (by decide +kernel)
  have grows := percentage_exact.2.1 .up 3 (by decide) 33 34 (by decide) 1 2 third more
  exact ⟨by decide, by decide, third, more, grows⟩

end Bound

end AvailabilityGate
