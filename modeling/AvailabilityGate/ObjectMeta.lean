import AvailabilityGate.Decode.Field

/-!
Owns the metadata of an object in the cluster: what its name is, who it belongs to, when it came
and goes, and who has written which parts of it. All of it is decoded and written again; members of
other names are passed over.
-/

namespace AvailabilityGate

open Decode

/-- An object that another one belongs to. -/
structure OwnerReference where
  apiVersion : String := ""
  blockOwnerDeletion : Option Bool := none
  controller : Option Bool := none
  kind : String := ""
  name : String := ""
  uid : String := ""
deriving DecidableEq

/-- The parts of an object that one of its managers has set. -/
structure ManagedFields where
  apiVersion : Option String := none
  fieldsType : Option String := none
  /-- The parts themselves, whose form depends on the type; null where they are not said. -/
  parts : FreeForm := .null
  manager : Option String := none
  operation : Option String := none
  subresource : Option String := none
  time : Option Time := none
deriving DecidableEq

structure ObjectMeta where
  annotations : Option (Table String) := none
  creationTimestamp : Option Time := none
  deletionGracePeriodSeconds : Option Int64 := none
  deletionTimestamp : Option Time := none
  finalizers : Option (List String) := none
  generateName : Option String := none
  generation : Option Int64 := none
  labels : Option (Table String) := none
  managedFields : Option (List ManagedFields) := none
  name : Option String := none
  /-- The namespace that the object lives in. -/
  home : Option String := none
  ownerReferences : Option (List OwnerReference) := none
  resourceVersion : Option String := none
  selfLink : Option String := none
  uid : Option String := none
deriving DecidableEq

namespace OwnerReference

def fields : List (WrittenField OwnerReference) := [
  .text "apiVersion" apiVersion fun apiVersion owner => { owner with apiVersion },
  .optional "blockOwnerDeletion" bool .bool blockOwnerDeletion fun blockOwnerDeletion owner =>
    { owner with blockOwnerDeletion },
  .optional "controller" bool .bool controller fun controller owner => { owner with controller },
  .text "kind" kind fun kind owner => { owner with kind },
  .text "name" name fun name owner => { owner with name },
  .text "uid" uid fun uid owner => { owner with uid }]

def record : Record OwnerReference :=
  .ofFields "OwnerReference" (fields.map WrittenField.toRecordField) {}

def encode (owner : OwnerReference) : Json :=
  .obj (writtenMembers fields owner)

end OwnerReference

namespace ManagedFields

def fields : List (WrittenField ManagedFields) := [
  .optional "apiVersion" text .str apiVersion fun apiVersion managed =>
    { managed with apiVersion },
  .optional "fieldsType" text .str fieldsType fun fieldsType managed =>
    { managed with fieldsType },
  .freeForm "fieldsV1" parts fun parts managed => { managed with parts },
  .optional "manager" text .str manager fun manager managed => { managed with manager },
  .optional "operation" text .str operation fun operation managed => { managed with operation },
  .optional "subresource" text .str subresource fun subresource managed =>
    { managed with subresource },
  .optional "time" Decode.time (.str ·.text) time fun time managed =>
    { managed with time }]

def record : Record ManagedFields :=
  .ofFields "ManagedFieldsEntry" (fields.map WrittenField.toRecordField) {}

def encode (managed : ManagedFields) : Json :=
  .obj (writtenMembers fields managed)

end ManagedFields

namespace ObjectMeta

/-- The name, or else the stem from which a name will be made, or else nothing. -/
def displayName (metadata : ObjectMeta) : String :=
  (metadata.name.orElse fun _ => metadata.generateName).getD ""

def labelTable (metadata : ObjectMeta) : Table String :=
  metadata.labels.getD .empty

def fields : List (WrittenField ObjectMeta) := [
  .optional "annotations" (table text) (Json.ofTable .str) annotations fun annotations metadata =>
    { metadata with annotations },
  .optional "creationTimestamp" time (.str ·.text) creationTimestamp
    fun creationTimestamp metadata => { metadata with creationTimestamp },
  .optional "deletionGracePeriodSeconds" int64 (.int ·.toInt) deletionGracePeriodSeconds
    fun deletionGracePeriodSeconds metadata => { metadata with deletionGracePeriodSeconds },
  .optional "deletionTimestamp" time (.str ·.text) deletionTimestamp
    fun deletionTimestamp metadata => { metadata with deletionTimestamp },
  .optional "finalizers" (list text) (fun finalizers => .arr (finalizers.map .str)) finalizers
    fun finalizers metadata => { metadata with finalizers },
  .optional "generateName" text .str generateName fun generateName metadata =>
    { metadata with generateName },
  .optional "generation" int64 (.int ·.toInt) generation fun generation metadata =>
    { metadata with generation },
  .optional "labels" (table text) (Json.ofTable .str) labels fun labels metadata =>
    { metadata with labels },
  .optional "managedFields" (list ManagedFields.record.loose)
    (fun managedFields => .arr (managedFields.map ManagedFields.encode)) managedFields
    fun managedFields metadata => { metadata with managedFields },
  .optional "name" text .str name fun name metadata => { metadata with name },
  .optional "namespace" text .str home fun home metadata => { metadata with home },
  .optional "ownerReferences" (list OwnerReference.record.loose)
    (fun ownerReferences => .arr (ownerReferences.map OwnerReference.encode)) ownerReferences
    fun ownerReferences metadata => { metadata with ownerReferences },
  .optional "resourceVersion" text .str resourceVersion fun resourceVersion metadata =>
    { metadata with resourceVersion },
  .optional "selfLink" text .str selfLink fun selfLink metadata => { metadata with selfLink },
  .optional "uid" text .str uid fun uid metadata => { metadata with uid }]

def record : Record ObjectMeta :=
  .ofFields "ObjectMeta" (fields.map WrittenField.toRecordField) {}

def decode : Decoder ObjectMeta :=
  record.loose

def encode (metadata : ObjectMeta) : Json :=
  .obj (writtenMembers fields metadata)

end ObjectMeta

end AvailabilityGate
