/-!
Owns the shortest decimal text of a binary number: of the decimals that read back to the number,
one with the fewest digits, and of those the nearest.

`shortest` selects the digits by exact arithmetic on naturals. `Layout` says how they are written.
Does not own which layout an output uses; each output names its own.
-/

namespace AvailabilityGate.Decimal

/-- A finite positive number `mantissa * 2 ^ exponent` in the 64-bit binary format. -/
structure Binary where
  mantissa : Nat
  exponent : Int
  /-- The gap to the number below is half the gap to the number above. -/
  narrowBelow : Bool
deriving DecidableEq, Repr

/-- The leading bit of the mantissa of a normal number. -/
def implicitBit : Nat := 0x10000000000000

/-- Reads the magnitude of a finite number from its bits. -/
def Binary.ofBits (bits : UInt64) : Binary :=
  let biased := ((bits >>> 52) &&& 0x7ff).toNat
  let fraction := (bits &&& 0xfffffffffffff).toNat
  if biased = 0 then ⟨fraction, -1074, false⟩
  else ⟨implicitBit + fraction, (biased : Int) - 1075, fraction = 0 && decide (1 < biased)⟩

/-- The number `digits * 10 ^ exponent`. -/
structure Digits where
  digits : Nat
  exponent : Int
deriving DecidableEq, Repr

/-- The order of `a * 10 ^ i` and `b * 2 ^ j`. -/
def compareScaled (a : Nat) (i : Int) (b : Nat) (j : Int) : Ordering :=
  compare (a * Nat.pow 10 i.toNat * Nat.pow 2 (-j).toNat)
    (b * Nat.pow 2 j.toNat * Nat.pow 10 (-i).toNat)

/-- Whether a decimal lies among the reals that round to the number, to nearest with ties to the
even mantissa. The ends of that interval are four quarters of a unit in the last place apart. -/
def Binary.readsBack (number : Binary) (decimal : Digits) : Bool :=
  let low := 4 * number.mantissa - (if number.narrowBelow then 1 else 2)
  let high := 4 * number.mantissa + 2
  let endsIncluded := number.mantissa % 2 = 0
  let againstLow := compareScaled decimal.digits decimal.exponent low (number.exponent - 2)
  let againstHigh := compareScaled decimal.digits decimal.exponent high (number.exponent - 2)
  (againstLow == .gt || (endsIncluded && againstLow == .eq)) &&
    (againstHigh == .lt || (endsIncluded && againstHigh == .eq))

/-- The least `k` with `number < 10 ^ k`, searched upward from an estimate that is never above. -/
def Binary.magnitude (number : Binary) : Int :=
  let bits := (number.mantissa.log2 : Int) + number.exponent
  let estimate := bits * 30103 / 100000 - 1
  let candidates := [estimate, estimate + 1, estimate + 2, estimate + 3]
  (candidates.find? fun k => compareScaled 1 k number.mantissa number.exponent == .gt).getD
    (estimate + 4)

/-- The multiple of `10 ^ exponent` just below the number, or equal to it. -/
def Binary.floorOn (number : Binary) (exponent : Int) : Nat :=
  (number.mantissa * Nat.pow 2 number.exponent.toNat * Nat.pow 10 (-exponent).toNat) /
    (Nat.pow 2 (-number.exponent).toNat * Nat.pow 10 exponent.toNat)

/-- Of the two neighbours of the number on the grid of `10 ^ exponent` the one that reads back;
if both do the nearer one, and the even one of two equally near. -/
def Binary.onGrid (number : Binary) (exponent : Int) : Option Digits :=
  let below := number.floorOn exponent
  let lower : Digits := ⟨below, exponent⟩
  let upper : Digits := ⟨below + 1, exponent⟩
  match number.readsBack lower, number.readsBack upper with
  | true, true =>
      match compareScaled (2 * below + 1) exponent (2 * number.mantissa) number.exponent with
      | .gt => some lower
      | .lt => some upper
      | .eq => some (if below % 2 = 0 then lower else upper)
  | true, false => some lower
  | false, true => some upper
  | false, false => none

/-- Drops the zeros at the end of the digits, at most `fuel` of them. -/
def Digits.dropZeros : Nat → Digits → Digits
  | 0, decimal => decimal
  | fuel + 1, decimal =>
      if decimal.digits ≠ 0 ∧ decimal.digits % 10 = 0 then
        dropZeros fuel ⟨decimal.digits / 10, decimal.exponent + 1⟩
      else decimal

/-- The shortest decimal of a positive number. Seventeen digits always suffice. -/
def Binary.shortest (number : Binary) : Digits :=
  let magnitude := number.magnitude
  let found := (List.range 17).findSome? fun n => number.onGrid (magnitude - (n + 1 : Nat))
  (found.getD ⟨number.floorOn (magnitude - 17), magnitude - 17⟩).dropZeros 17

/-- How digits are written. -/
structure Layout where
  /-- The least exponent of the leading digit that is written without an exponent. -/
  plainFrom : Int
  /-- The least exponent above those written without an exponent. -/
  plainBelow : Int
  /-- Whether a positive exponent carries a sign. -/
  plusSign : Bool
  /-- The least number of exponent digits. -/
  exponentWidth : Nat

private def zeros (count : Nat) : String :=
  String.ofList (List.replicate count '0')

/-- The decimal in the given layout; without an exponent it always has a fraction. -/
def Layout.write (layout : Layout) (decimal : Digits) : String :=
  let digits := toString decimal.digits
  let leading := decimal.exponent + digits.length - 1
  if layout.plainFrom ≤ leading ∧ leading < layout.plainBelow then
    if 0 ≤ decimal.exponent then digits ++ zeros decimal.exponent.toNat ++ ".0"
    else if 0 ≤ leading then
      let whole := leading.toNat + 1
      String.ofList (digits.toList.take whole) ++ "." ++ String.ofList (digits.toList.drop whole)
    else "0." ++ zeros (-leading - 1).toNat ++ digits
  else
    let significand :=
      if digits.length = 1 then digits
      else String.ofList (digits.toList.take 1) ++ "." ++ String.ofList (digits.toList.drop 1)
    let exponent := toString leading.natAbs
    let sign := if leading < 0 then "-" else if layout.plusSign then "+" else ""
    significand ++ "e" ++ sign ++ zeros (layout.exponentWidth - exponent.length) ++ exponent

/-- The text of a number in the given layout, its digits chosen by the given rule. -/
def Layout.textWith (layout : Layout) (choose : Binary → Digits) (number : Float) : String :=
  let bits := number.toBits
  let sign := if bits >>> 63 = 1 then "-" else ""
  if number.isNaN then "NaN"
  else if number.isInf then sign ++ "inf"
  else if bits &&& 0x7fffffffffffffff = 0 then sign ++ "0.0"
  else sign ++ layout.write (choose (Binary.ofBits bits))

/-- The shortest text of a number in the given layout. -/
def Layout.text (layout : Layout) (number : Float) : String :=
  layout.textWith Binary.shortest number

end AvailabilityGate.Decimal
