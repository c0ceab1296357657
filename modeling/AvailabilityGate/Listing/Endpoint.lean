import AvailabilityGate.Http.Status
import AvailabilityGate.Listing.Fault
import AvailabilityGate.Policy.Basic

/-!
Owns the listing of a namespace's policies from the cluster: what is asked for, and what the answer
means.

Main statements: the namespace goes into the path as it is; an answer below 400 is a list object
whose `items` are the policies, an answer that reports a failure is an error object, and where it
is none the raw text stands in for it.
-/

namespace AvailabilityGate.Listing

/-- Where the policies of a namespace are listed. -/
def target (home : String) : String :=
  "/apis/barbossa.sphc.io/v1alpha1/namespaces/" ++ home ++ "/highavailabilitypolicies?"

/-- What is asked for. -/
def request (home : String) : Except Fault Http.Uri :=
  (Http.Uri.parse (target home)).mapError .badRequest

/-- The answer of the cluster. -/
structure Answer where
  status : Nat
  body : String

def ErrorReply.record : Decode.Record ErrorReply where
  title := "struct ErrorResponse"
  fields := ["status", "message", "reason", "code"]
  required := ["status", "code"]
  empty := { status := "", code := 0 }
  set
    | "status", medium, document, reply => do
        return { reply with status := ← Decode.text medium document }
    | "message", medium, document, reply => do
        return { reply with message := ← Decode.text medium document }
    | "reason", medium, document, reply => do
        return { reply with reason := ← Decode.text medium document }
    | "code", medium, document, reply => do
        return { reply with code := ← Decode.natural 65535 "u16" medium document }
    | _, _, _, reply => .ok reply

/-- The error that an answer stands for whose text is no error object. -/
def ErrorReply.ofText (answer : Answer) : ErrorReply where
  status := Http.statusText answer.status
  message := Text.quoted answer.body
  reason := "Failed to parse error data"
  code := answer.status

def ErrorReply.ofAnswer (answer : Answer) : ErrorReply :=
  match Decode.ofText ErrorReply.record.strict answer.body with
  | .ok reply => reply
  | .error _ => .ofText answer

/-- The metadata of a list; nothing of them is kept. -/
def listMeta : Decode.Record Unit :=
  .checked "ListMeta" [
    ("continue", Decode.seen (Decode.optional Decode.text)),
    ("remainingItemCount", Decode.seen (Decode.optional Decode.int64)),
    ("resourceVersion", Decode.seen (Decode.optional Decode.text)),
    ("selfLink", Decode.seen (Decode.optional Decode.text))]

def policyList : Decode.Record (List Policy) where
  title := "struct ObjectList"
  fields := ["metadata", "items"]
  required := ["items"]
  empty := []
  set
    | "metadata", medium, document, policies => do
        listMeta.loose medium document
        return policies
    | "items", medium, document, _ => do
        let policies ← Decode.optional (Decode.list Policy.decode) medium document
        return policies.getD []
    | _, _, _, policies => .ok policies

def decode : Decoder (List Policy) := fun medium document => do
  let (policies, _) ← policyList.openRecord medium document
  return policies

/-- The policies in an answer. -/
def Answer.policies (answer : Answer) : Except Fault (List Policy) :=
  if Http.isFailure answer.status then .error (.refused (.ofAnswer answer))
  else (Decode.ofText decode answer.body).mapError .badReply

/-- The policies of a namespace, given how the cluster answers a request. -/
def list (ask : Http.Uri → Answer) (home : String) : Except Fault (List Policy) := do
  (ask (← request home)).policies

end AvailabilityGate.Listing
