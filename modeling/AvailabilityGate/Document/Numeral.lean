import AvailabilityGate.Document.Basic

/-!
Owns the value of a number in JSON text.

Whole numbers that fit 64 bits, signed or unsigned, stay exact. Every other number becomes a
64-bit float in two roundings: its leading digits, as many as fit 64 bits, are rounded to a float,
and that is multiplied or divided by a power of ten.
-/

namespace AvailabilityGate

/-- The digits of a number in JSON text, apart from its sign. -/
structure Numeral where
  whole : List Char
  fraction : List Char
  /-- The written exponent, if there is one. -/
  exponent : Option Int

namespace Numeral

/-- Whole numbers below this fit 64 bits. -/
def wordLimit : Nat := 18446744073709551616

/-- The magnitude of the least number that fits 64 bits with sign. -/
def signedLimit : Nat := 9223372036854775808

def digitValue (c : Char) : Nat :=
  c.toNat - '0'.toNat

def wholeValue (digits : List Char) : Nat :=
  digits.foldl (fun value digit => value * 10 + digitValue digit) 0

/-- Leading digits as far as they fit 64 bits, and what is left of the digits. -/
def fill (significand : Nat) : List Char → Nat × List Char
  | [] => (significand, [])
  | digit :: rest =>
      let next := significand * 10 + digitValue digit
      if next < wordLimit then fill next rest else (significand, digit :: rest)

/-- The significand and the power of ten that it is scaled by, the written exponent aside. -/
def significand (numeral : Numeral) : Nat × Int :=
  let (leading, dropped) := fill 0 numeral.whole
  let (all, rest) := fill leading numeral.fraction
  (all, (dropped.length : Int) - ((numeral.fraction.length - rest.length : Nat) : Int))

def tenTo (power : Nat) : Float :=
  Float.ofScientific 1 false power

/-- `value * 10 ^ power`, or nothing if that is too large for a float. -/
def scale (value : Float) (power : Int) : Option Float :=
  if 0 ≤ power then
    if value == 0 then some value
    else if 308 < power then none
    else
      let scaled := value * tenTo power.toNat
      if scaled.isInf then none else some scaled
  else if -308 ≤ power then some (value / tenTo (-power).toNat)
  else if -616 ≤ power then some (value / tenTo 308 / tenTo (-power - 308).toNat)
  else some 0

def negated (negative : Bool) (value : Float) : Float :=
  if negative then -value else value

/-- The document of a number with the given sign. -/
def document (numeral : Numeral) (negative : Bool) : Document :=
  let value := wholeValue numeral.whole
  if numeral.fraction = [] ∧ numeral.exponent = none ∧ !negative ∧ value < wordLimit then
    .int value
  else if numeral.fraction = [] ∧ numeral.exponent = none ∧ negative ∧
      0 < value ∧ value ≤ signedLimit then
    .int (-value)
  else
    let (leading, power) := numeral.significand
    match scale leading.toUInt64.toFloat (power + numeral.exponent.getD 0) with
    | some float => .float (negated negative float)
    | none => .refused .numberOutOfRange (.float 0)

end Numeral

end AvailabilityGate
