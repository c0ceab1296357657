import AvailabilityGate.Admission.ResponseForm
import AvailabilityGate.Manifest

/-!
Owns admission reviews as the cluster sends them: an envelope with the type of the review, and in
it a request to create, change or remove an object.
-/

namespace AvailabilityGate.Admission

inductive Operation where
  | create
  | update
  | delete
  | connect
deriving DecidableEq, Repr

namespace Operation

/-- The names of the operations in a request. -/
def table : List (String × Operation) :=
  [("CREATE", .create), ("UPDATE", .update), ("DELETE", .delete), ("CONNECT", .connect)]

/-- The operation in a log. -/
def name : Operation → String
  | .create => "Create"
  | .update => "Update"
  | .delete => "Delete"
  | .connect => "Connect"

def decode : Decoder Operation :=
  Decode.variant table

end Operation

/-- A group of types, a version of it, and a kind in it or a resource of it. -/
def typeNameRecord (title last : String) (more : List String) : Decode.Record Unit :=
  .checked title ((["group", "version", last] ++ more).map (·, Decode.seen Decode.text))
    ["group", "version", last]

def kindRecord : Decode.Record Unit :=
  typeNameRecord "struct GroupVersionKind" "kind" []

def resourceRecord : Decode.Record Unit :=
  typeNameRecord "struct GroupVersionResource" "resource" ["api_version"]

/-- Who asks; nothing of it is kept. -/
def userRecord : Decode.Record Unit :=
  .checked "UserInfo" [
    ("extra", Decode.seen (Decode.optional (Decode.table (Decode.list Decode.text)))),
    ("groups", Decode.seen (Decode.optional (Decode.list Decode.text))),
    ("uid", Decode.seen (Decode.optional Decode.text)),
    ("username", Decode.seen (Decode.optional Decode.text))]

/-- A request, as far as the gateway looks at it. -/
structure Request where
  /-- The type of the review around the request. -/
  types : TypeMeta := ⟨"", ""⟩
  uid : String
  name : String := ""
  home : Option String := none
  operation : Operation
  object : Option Manifest := none

namespace Request

/-- Keeps a request as it is when a field that it does not hold decodes. -/
private def passed {α : Type} (decode : Decoder α) (medium : Medium) (document : Document)
    (request : Request) : Except DecodeFailure Request := do
  let _ ← decode medium document
  return request

def record : Decode.Record Request where
  title := "struct AdmissionRequest"
  fields := [
    "uid", "kind", "resource", "subResource", "requestKind", "requestResource",
    "requestSubResource", "name", "namespace", "operation", "userInfo", "object", "oldObject",
    "dryRun", "options"]
  required := ["uid", "kind", "resource", "operation", "userInfo"]
  reached := ["uid", "kind", "resource", "operation", "userInfo", "object", "oldObject"]
  empty := { uid := "", operation := .create }
  set
    | "uid", medium, document, request => do
        return { request with uid := ← Decode.text medium document }
    | "kind", medium, document, request => passed kindRecord.strict medium document request
    | "resource", medium, document, request =>
        passed resourceRecord.strict medium document request
    | "subResource", medium, document, request =>
        passed (Decode.optional Decode.text) medium document request
    | "requestKind", medium, document, request =>
        passed (Decode.optional kindRecord.strict) medium document request
    | "requestResource", medium, document, request =>
        passed (Decode.optional resourceRecord.strict) medium document request
    | "requestSubResource", medium, document, request =>
        passed (Decode.optional Decode.text) medium document request
    | "name", medium, document, request => do
        return { request with name := ← Decode.text medium document }
    | "namespace", medium, document, request => do
        return { request with home := ← Decode.optional Decode.text medium document }
    | "operation", medium, document, request => do
        return { request with operation := ← Operation.decode medium document }
    | "userInfo", medium, document, request => passed userRecord.loose medium document request
    | "object", medium, document, request => do
        return { request with object := ← Decode.optional Manifest.decode medium document }
    | "oldObject", medium, document, request =>
        passed (Decode.optional Manifest.decode) medium document request
    | "dryRun", medium, document, request => passed Decode.bool medium document request
    | "options", medium, document, request =>
        passed (fun _ document => Decode.json document) medium document request
    | _, _, _, request => .ok request

end Request

/-- The envelope of a request. -/
structure Review where
  types : TypeMeta
  request : Option Request := none

namespace Review

def record : Decode.Record (Option Request) where
  title := "struct AdmissionReview"
  fields := ["request", "response"]
  empty := none
  set
    | "request", medium, document, _ => Decode.optional Request.record.strict medium document
    | "response", medium, document, request => do
        Decode.seen (Decode.optional responseForm.strict) medium document
        return request
    | _, _, _, request => .ok request

def decode : Decoder Review := fun medium document => do
  let (request, members) ← record.openRecord medium document
  return { types := ← (TypeMeta.takeFrom none none members).1, request }

/-- The request in a review, with the type of the review. -/
def typedRequest? (review : Review) : Option Request :=
  review.request.map fun request => { request with types := review.types }

/-- What is said about a review that holds no request. -/
def noRequest : String :=
  "failed to convert AdmissionReview into AdmissionRequest"

end Review

end AvailabilityGate.Admission
