import AvailabilityGate.Decode.Record
import AvailabilityGate.Decode.Variant

/-!
Owns the form of a response inside a review that comes in. A review may hold one beside its request;
it is looked at like the rest of the review, and nothing of it is kept.

Does not own the responses that go out; see `AvailabilityGate.Admission.Response`.
-/

namespace AvailabilityGate.Admission

private def textField : Decoder Unit :=
  Decode.seen Decode.text

/-- One of the causes of a failure. -/
def causeForm : Decode.Record Unit :=
  .checked "struct StatusCause" [
    ("reason", textField), ("message", textField), ("field", textField)]

/-- What a failure is about. -/
def detailsForm : Decode.Record Unit :=
  .checked "struct StatusDetails" [
    ("name", textField), ("group", textField), ("kind", textField), ("uid", textField),
    ("causes", Decode.seen (Decode.list causeForm.strict)),
    ("retryAfterSeconds", Decode.seen (Decode.natural 4294967295 "u32"))]

/-- How the review ended. -/
def statusForm : Decode.Record Unit :=
  .checked "struct Status" [
    ("status", Decode.seen (Decode.optional (Decode.variant [("Success", ()), ("Failure", ())]))),
    ("code", Decode.seen (Decode.natural 65535 "u16")),
    ("message", textField),
    ("reason", textField),
    ("details", Decode.seen (Decode.optional detailsForm.strict))]

/-- A response. As an array it must reach every field but the annotations. -/
def responseForm : Decode.Record Unit :=
  .checked "struct AdmissionResponse" [
    ("uid", textField),
    ("allowed", Decode.seen Decode.bool),
    ("status", statusForm.strict),
    ("patch", Decode.seen (Decode.optional (Decode.list (Decode.natural 255 "u8")))),
    ("patchType", Decode.seen (Decode.optional (Decode.variant [("JSONPatch", ())]))),
    ("auditAnnotations", Decode.seen (Decode.table Decode.text)),
    ("warnings", Decode.seen (Decode.optional (Decode.list Decode.text)))]
    ["uid", "allowed", "status"]
    ["uid", "allowed", "status", "patch", "patchType", "warnings"]

end AvailabilityGate.Admission
