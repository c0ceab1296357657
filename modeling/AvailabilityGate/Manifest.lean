import AvailabilityGate.Deployment
import AvailabilityGate.TypeMeta

/-!
Owns manifests: objects of any type. Of a manifest the metadata are decoded when it is read, and
everything else is kept as JSON until somebody knows what type to expect.
-/

namespace AvailabilityGate

structure Manifest where
  /-- Kept only if both parts are there and are texts. -/
  types : Option TypeMeta := none
  metadata : ObjectMeta := {}
  /-- The other members. -/
  rest : List (String × Json) := []

namespace Manifest

def record : Decode.Record ObjectMeta where
  title := "struct DynamicObject"
  fields := ["metadata"]
  empty := {}
  set
    | "metadata", medium, document, _ => ObjectMeta.decode medium document
    | _, _, _, metadata => .ok metadata

/-- Members as free-form JSON; of a repeated name the last stands. -/
def keepMembers (members : List (String × Document)) :
    Except DecodeFailure (List (String × Json)) := do
  let members := members.map fun member => (.ok member.1, member.2)
  return Json.members (← Decode.jsonMembers none members)

def decode : Decoder Manifest := fun medium document => do
  let (metadata, members) ← record.openRecord medium document
  let (types, others) := TypeMeta.takeFrom none none members
  return { types := types.toOption, metadata, rest := ← keepMembers others }

def encode (manifest : Manifest) : Json :=
  .obj (((manifest.types.map TypeMeta.encode).getD []) ++
    ("metadata", manifest.metadata.encode) :: manifest.rest)

/-- The Deployment that the manifest describes. -/
def deployment (manifest : Manifest) : Except DecodeFailure Deployment :=
  Decode.ofJson Deployment.decode manifest.encode

end Manifest

end AvailabilityGate
