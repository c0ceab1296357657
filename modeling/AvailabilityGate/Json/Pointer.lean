import AvailabilityGate.Json.Basic
import AvailabilityGate.Text.Pieces

/-!
Owns JSON pointers: the way to a part of a value, its steps each behind a slash. In a step `~1`
stands for a slash and `~0` for a tilde; a step into an array is an index without leading zeros.
-/

namespace AvailabilityGate.Json

def unescapeStep : List Char → List Char
  | '~' :: '0' :: rest => '~' :: unescapeStep rest
  | '~' :: '1' :: rest => '/' :: unescapeStep rest
  | c :: rest => c :: unescapeStep rest
  | [] => []

/-- The index that a step names. -/
def index? (step : String) : Option Nat :=
  let digits := step.toList
  if digits.head? = some '0' ∧ digits.length ≠ 1 then none
  else if digits ≠ [] ∧ digits.all Char.isDigit then step.toNat?
  else none

/-- One step into a value. -/
def step? (value : Json) (step : String) : Option Json :=
  match value with
  | .obj _ => value.get? step
  | .arr items => (index? step).bind fun index => items[index]?
  | _ => none

/-- The steps of a written pointer; the empty text has none. -/
def pointerSteps? (pointer : String) : Option (List String) :=
  match pointer.toList with
  | [] => some []
  | '/' :: rest =>
      some ((Text.pieces '/' rest).map fun piece => String.ofList (unescapeStep piece))
  | _ => none

/-- The part of a value that a written pointer leads to. -/
def pointer? (value : Json) (pointer : String) : Option Json :=
  (pointerSteps? pointer).bind fun steps => steps.foldlM step? value

end AvailabilityGate.Json
