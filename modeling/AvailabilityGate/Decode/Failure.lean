import AvailabilityGate.Document.Basic
import AvailabilityGate.Json.Printer
import AvailabilityGate.Text.Quoted
import AvailabilityGate.Time.Text

/-!
Owns the ways in which a document fails to be a value of the type asked for, the place of the
failure, and the wording.

Does not own the line and the column of the failure, which a parser of text puts behind the wording.
-/

namespace AvailabilityGate

/-- What a document holds where something else was expected. -/
inductive Found where
  | null
  | bool (value : Bool)
  | int (value : Int)
  | float (value : Float)
  | str (value : String)
  | array
  | object

/-- How values are named in messages, where the format of the document has a say. -/
structure Wording where
  null : String
  float : Decimal.Layout

/-- The wording for JSON. -/
def Wording.json : Wording where
  null := "null"
  float := Json.floatLayout

/-- The wording for configuration files: numbers have no exponent. -/
def Wording.configuration : Wording where
  null := "unit value"
  float := { plainFrom := -400, plainBelow := 400, plusSign := false, exponentWidth := 1 }

def Found.text (wording : Wording) : Found → String
  | .null => wording.null
  | .bool true => "boolean `true`"
  | .bool false => "boolean `false`"
  | .int value => "integer `" ++ toString value ++ "`"
  | .float value => "floating point `" ++ wording.float.text value ++ "`"
  | .str value => "string " ++ Text.quoted value
  | .array => "sequence"
  | .object => "map"

/-- Causes of a failed decoding. -/
inductive DecodeCause where
  | malformed (fault : SyntaxFault)
  | wrongType (found : Found) (expected : String)
  | wrongValue (found : Found) (expected : String)
  | wrongLength (count : Nat) (expected : String)
  | missingField (name : String)
  | duplicateField (name : String)
  | unknownVariant (name : String) (known : List String)
  | notTime (fault : TimeFault)

/-- The names of variants, each between backquotes. -/
def variantNames : List String → String
  | [] => "there are no variants"
  | [name] => "`" ++ name ++ "`"
  | [first, second] => "`" ++ first ++ "` or `" ++ second ++ "`"
  | names => "one of " ++ ", ".intercalate (names.map fun name => "`" ++ name ++ "`")

def DecodeCause.messageIn (wording : Wording) : DecodeCause → String
  | .malformed fault => fault.message
  | .wrongType found expected =>
      "invalid type: " ++ found.text wording ++ ", expected " ++ expected
  | .wrongValue found expected =>
      "invalid value: " ++ found.text wording ++ ", expected " ++ expected
  | .wrongLength count expected =>
      "invalid length " ++ toString count ++ ", expected " ++ expected
  | .missingField name => "missing field `" ++ name ++ "`"
  | .duplicateField name => "duplicate field `" ++ name ++ "`"
  | .unknownVariant name known =>
      "unknown variant `" ++ name ++ "`, expected " ++ variantNames known
  | .notTime fault => fault.message

def DecodeCause.message : DecodeCause → String :=
  messageIn .json

/-- Whether the text itself is at fault, and not what it says. -/
def DecodeCause.isSyntax : DecodeCause → Bool
  | .malformed _ => true
  | _ => false

/-- One step from a document to a part of it. -/
inductive PathStep where
  | member (name : String)
  | item (index : Nat)
  /-- The place of a member whose name cannot be read. -/
  | unnamed

/-- A cause, and the way to the place where it arose from the outside in. -/
structure DecodeFailure where
  cause : DecodeCause
  path : List PathStep := []

namespace DecodeFailure

def message (failure : DecodeFailure) : String :=
  failure.cause.message

def within (step : PathStep) (failure : DecodeFailure) : DecodeFailure :=
  { failure with path := step :: failure.path }

def stepText : PathStep → String
  | .member name => name
  | .item index => "[" ++ toString index ++ "]"
  | .unnamed => "?"

/-- The step written behind another one. -/
def laterStepText : PathStep → String
  | .item index => stepText (.item index)
  | step => "." ++ stepText step

def pathText : List PathStep → String
  | [] => ""
  | step :: rest => stepText step ++ String.join (rest.map laterStepText)

/-- The wording with the place in front, where there is a place that can be named. -/
def placedMessage (failure : DecodeFailure) : String :=
  let named := failure.path.any fun
    | .unnamed => false
    | _ => true
  if named then pathText failure.path ++ ": " ++ failure.message else failure.message

end DecodeFailure

end AvailabilityGate
