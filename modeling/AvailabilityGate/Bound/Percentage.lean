import AvailabilityGate.Decode.Basic

/-!
Owns the written form of a percentage: an optional sign, one or more decimal digits, and a single
percent sign at the end. The number is read digit by digit, and must not leave 32 bits on the way.
-/

namespace AvailabilityGate.Percentage

/-- The text before a final percent sign. -/
def stripSign (text : List Char) : Option (List Char) :=
  match text.getLast? with
  | some '%' => some text.dropLast
  | _ => none

/-- A whole number, unless it leaves 32 bits. -/
def fitted? (value : Int) : Option Int32 :=
  if Decode.FitsInt32 value then some (Int32.ofInt value) else none

/-- One more digit behind a number. Below zero it is taken away, so that the least number can be
read as well. -/
def pushDigit? (negative : Bool) (value : Int32) (digit : Char) : Option Int32 := do
  let tens ← fitted? (value.toInt * 10)
  if digit.isDigit then
    let units := digit.toNat - '0'.toNat
    fitted? (if negative then tens.toInt - units else tens.toInt + units)
  else none

/-- The number in one or more decimal digits. -/
def number? (negative : Bool) (digits : List Char) : Option Int32 :=
  if digits = [] then none else digits.foldlM (pushDigit? negative) 0

/-- The number in decimal digits behind an optional sign. -/
def integer? : List Char → Option Int32
  | '+' :: digits => number? false digits
  | '-' :: digits => number? true digits
  | digits => number? false digits

/-- The number in a percentage. -/
def parse? (text : String) : Option Int32 := do
  let number ← stripSign text.toList
  integer? number

end AvailabilityGate.Percentage
