import AvailabilityGate.Decode.Basic

/-!
Owns bounds: what a manifest gives where it may give a whole number or a percentage.
-/

namespace AvailabilityGate

/-- A count, or a text that should be a percentage. -/
inductive Bound where
  | count (value : Int32)
  | text (value : String)
deriving DecidableEq, Repr

namespace Bound

/-- The bound as it is written in the manifest. -/
def display : Bound → String
  | .count value => toString value.toInt
  | .text value => value

def decode : Decoder Bound
  | _, .int value =>
      if Decode.FitsInt32 value then .ok (.count (Int32.ofInt value))
      else Decode.fail (.wrongValue (.int value) "a 32-bit integer")
  | _, .str value => .ok (.text value)
  | _, document => Decode.mismatch "IntOrString" document

def encode : Bound → Json
  | .count value => .int value.toInt
  | .text value => .str value

end Bound

end AvailabilityGate
