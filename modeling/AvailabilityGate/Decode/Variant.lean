import AvailabilityGate.Decode.Basic

/-!
Owns the decoding of variants that have no parts: a variant is its name, or an object with the name
as its one member, which holds null.
-/

namespace AvailabilityGate.Decode

/-- The value of a name among the known ones. -/
def named {α : Type} (known : List (String × α)) (name : String) : Except DecodeFailure α :=
  match known.lookup name with
  | some value => .ok value
  | none => fail (.unknownVariant name (known.map Prod.fst))

/-- What a variant without parts holds. -/
def nothing : Document → Except DecodeFailure Unit
  | .null => .ok ()
  | document => mismatch "unit" document

/-- A variant as the one member of an object in a text. The name is looked at before the colon, and
behind the member there must be the end. -/
def soleMember {α : Type} (known : List (String × α)) :
    Document.Members → Option SyntaxFault → Except DecodeFailure α
  | [], ending => fail (.malformed (ending.getD .expectedValue))
  | (.error fault, _) :: _, _ => fail (.malformed fault)
  | (.ok name, document) :: rest, ending => do
      let value ← named known name
      withinMember name document (nothing document)
      match rest, ending with
      | [], none => return value
      | [], some .endOfObject => fail (.malformed .endOfObject)
      | _, _ => fail (.malformed .expectedValue)

/-- The fault for a reader who looks for a text or an object and sees of everything else no more
than the first character. -/
def seenFault : SyntaxFault → SyntaxFault
  | .expectedWord | .endOfWord | .invalidNumber | .endOfNumber => .expectedValue
  | fault => fault

/-- A variant of the given names. -/
def variant {α : Type} (known : List (String × α)) : Decoder α
  | _, .str name => named known name
  | .value, .obj [(.ok name, document)] none => do
      let value ← named known name
      within (.member name) (nothing document)
      return value
  | .value, .obj _ _ => fail (.wrongValue .object "map with a single key")
  | .value, document => mismatch "string or map" document
  | .text, .obj members ending => soleMember known members ending
  | .text, .broken fault => fail (.malformed (seenFault fault))
  | .text, .refused .tooDeep (.obj _ _) => fail (.malformed .tooDeep)
  | .text, .refused fault (.str _) => fail (.malformed fault)
  | .text, .refused fault (.broken _) => fail (.malformed fault)
  | .text, _ => fail (.malformed .expectedValue)

end AvailabilityGate.Decode
