import AvailabilityGate.Admission.Response
import AvailabilityGate.Gateway.Basic
import AvailabilityGate.Health
import AvailabilityGate.Http.MediaType

/-!
Owns the webhook: how an HTTP request becomes an admission request, and how the verdict on it goes
back into an HTTP reply, the metrics and the log.

Reviews are sent to `POST /validate`. A request that carries no JSON, or no admission review with
a request in it, is turned away before the gateway sees it and leaves the health as it was.
-/

namespace AvailabilityGate.Webhook

/-- Where reviews are sent. -/
def path : String := "/validate"

/-- The name of what is validated, in a log. -/
def targetName : String := "HighAvailability"

/-- Why a request is turned away before the gateway sees it. -/
inductive Rejection where
  | unknownPath
  | wrongMethod
  | notJson
  | tooLarge
  | badBody (failure : DecodeFailure)
  | noRequest

def Rejection.reply : Rejection → Http.Reply
  | .unknownPath => .notFound
  | .wrongMethod => .methodNotAllowed
  | .notJson => .plain 415 "Expected request with `Content-Type: application/json`"
  | .tooLarge => .plain 413 "Failed to buffer the request body: length limit exceeded"
  | .badBody failure =>
      if failure.cause.isSyntax then
        .plain 400 ("Failed to parse the request body as JSON: " ++ failure.placedMessage)
      else
        .plain 422
          ("Failed to deserialize the JSON body into the target type: " ++ failure.placedMessage)
  | .noRequest =>
      .json 400
        (Admission.Response.invalid
          ("Invalid AdmissionReview: " ++ Admission.Review.noRequest)).encode

def Rejection.log : Rejection → List LogEvent
  | .noRequest =>
      [⟨.error, "Failed to extract admission request", [("error", Admission.Review.noRequest)]⟩]
  | _ => []

/-- The most bytes of a body that is read. -/
def bodyLimit : Nat := 2097152

/-- The admission request in an HTTP request. -/
def extract (request : Http.Request) : Except Rejection Admission.Request :=
  if request.uri.path ≠ path then .error .unknownPath
  else if request.method ≠ "POST" then .error .wrongMethod
  else if !request.contentType.any Http.MediaType.isJson then .error .notJson
  else if bodyLimit < request.body.utf8ByteSize then .error .tooLarge
  else
    match Decode.ofText Admission.Review.decode request.body with
    | .error failure => .error (.badBody failure)
    | .ok review =>
        match review.typedRequest? with
        | none => .error .noRequest
        | some admission => .ok admission

/-- A reply, the health behind it, and what was logged. -/
structure Outcome where
  reply : Http.Reply
  health : Health
  log : List LogEvent := []

def arrivalEvent (request : Admission.Request) : LogEvent where
  level := .debug
  message := "Processing admission request"
  fields := [
    ("uid", request.uid),
    ("target", targetName),
    ("operation", request.operation.name),
    ("namespace", Text.quotedOption request.home),
    ("name", request.name)]

def verdictEvent (request : Admission.Request) (verdict : Verdict) : LogEvent :=
  match verdict.denial with
  | none => ⟨.info, "Admission request allowed", [("uid", request.uid)]⟩
  | some denial =>
      { level := .warn
        message := "Admission request denied"
        fields := [
          ("uid", request.uid), ("reason", denial.reason.name), ("message", denial.message)] }

/-- Reviews a request and records the verdict, which took so many seconds. -/
def answer (gateway : Gateway) (seconds : Float) (health : Health)
    (request : Admission.Request) : Outcome :=
  let decision := gateway.review request
  { reply := .json 200 (Admission.Response.ofVerdict request decision.verdict).encode
    health := { health with metrics := health.metrics.record decision.verdict seconds }
    log := arrivalEvent request :: decision.log ++ [verdictEvent request decision.verdict] }

def handle (gateway : Gateway) (seconds : Float) (health : Health) (request : Http.Request) :
    Outcome :=
  match extract request with
  | .error rejection => ⟨rejection.reply, health, rejection.log⟩
  | .ok admission => answer gateway seconds health admission

end AvailabilityGate.Webhook
