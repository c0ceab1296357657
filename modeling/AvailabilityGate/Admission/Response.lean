import AvailabilityGate.Admission.Request
import AvailabilityGate.Gateway.Verdict

/-!
Owns the answers to admission reviews: a review of the same type that holds a response.
-/

namespace AvailabilityGate.Admission

/-- What a response says about a denial; empty when the request is admitted. -/
structure ResponseStatus where
  code : Nat := 0
  message : String := ""
  reason : String := ""
  status : String := ""
deriving DecidableEq, Repr

structure Response where
  types : TypeMeta
  uid : String
  allowed : Bool
  status : ResponseStatus := {}
deriving DecidableEq, Repr

namespace ResponseStatus

/-- A member for a text that is not empty. -/
def textMember (name text : String) : List (String × Json) :=
  if text = "" then [] else [(name, .str text)]

def encode (status : ResponseStatus) : Json :=
  .obj ((if status.code = 0 then [] else [("code", .int status.code)]) ++
    textMember "message" status.message ++
    textMember "reason" status.reason ++
    textMember "status" status.status)

end ResponseStatus

namespace Response

def encode (response : Response) : Json :=
  .obj (response.types.encode ++ [("response", .obj [
    ("uid", .str response.uid),
    ("allowed", .bool response.allowed),
    ("status", response.status.encode)])])

/-- The response to a request that gives a verdict back. Only a denial is looked at; without one
the request is admitted. -/
def ofVerdict (request : Request) (verdict : Verdict) : Response :=
  match verdict.denial with
  | none => { types := request.types, uid := request.uid, allowed := true }
  | some denial =>
      { types := request.types
        uid := request.uid
        allowed := false
        status := {
          code := denial.reason.code
          message := denial.message
          reason := denial.reason.name } }

/-- The response to a review that holds no request. -/
def invalid (message : String) : Response where
  types := ⟨"admission.k8s.io/v1beta1", "AdmissionReview"⟩
  uid := ""
  allowed := false
  status := {
    message
    reason := "InvalidRequest"
    status := "Failure" }

end Response

end AvailabilityGate.Admission
