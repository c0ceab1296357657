import AvailabilityGate.Decode.Record

/-!
Owns the type that an object claims to have, and how it is taken from among the other members of
the object.
-/

namespace AvailabilityGate

structure TypeMeta where
  apiVersion : String
  kind : String
deriving DecidableEq, Repr

namespace TypeMeta

/-- The type that is named by what was found of it. -/
def ofParts : Option String → Option String → Except DecodeFailure TypeMeta
  | some apiVersion, some kind => .ok ⟨apiVersion, kind⟩
  | none, _ => Decode.fail (.missingField "apiVersion")
  | some _, none => Decode.fail (.missingField "kind")

/-- Takes one part of the type, which must not have been found before. -/
def takePart (name : String) (before : Option String) (document : Document) :
    Except DecodeFailure String :=
  match before with
  | some _ => Decode.fail (.duplicateField name)
  | none => Decode.text .value document

/-- Takes the type from the members of an object. A member is taken when it is looked at, and
nothing is looked at behind the first failure; the second result are the members not taken. -/
def takeFrom (apiVersion kind : Option String) :
    List (String × Document) →
      Except DecodeFailure TypeMeta × List (String × Document)
  | [] => (ofParts apiVersion kind, [])
  | (name, document) :: rest =>
      if name = "apiVersion" then
        match takePart name apiVersion document with
        | .error failure => (.error failure, rest)
        | .ok value => takeFrom (some value) kind rest
      else if name = "kind" then
        match takePart name kind document with
        | .error failure => (.error failure, rest)
        | .ok value => takeFrom apiVersion (some value) rest
      else
        let (result, others) := takeFrom apiVersion kind rest
        (result, (name, document) :: others)

def encode (types : TypeMeta) : List (String × Json) :=
  [("apiVersion", .str types.apiVersion), ("kind", .str types.kind)]

end TypeMeta

end AvailabilityGate
