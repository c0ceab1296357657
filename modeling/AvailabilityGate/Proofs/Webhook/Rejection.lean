import AvailabilityGate.Json.Printer
import AvailabilityGate.Proofs.Admission.Envelope
import AvailabilityGate.Proofs.Gateway.Consultation
import AvailabilityGate.Proofs.Webhook.Story
import Mathlib

/-!
Owns which HTTP requests reach the gateway. A request is malformed in one of several ways, or it
carries an admission request; there is nothing between. Each way to be malformed is said without
regard to the order in which the webhook looks.

Bodies are texts, so these theorems do not cover a body whose bytes are not UTF-8.

Main statement: only what carries a request that the gateway allows is admitted, and what is
malformed leaves no trace.
-/

namespace AvailabilityGate.Webhook

/-- The request is sent to where reviews are read, as JSON of a size that is read. -/
structure Delivered (request : Http.Request) : Prop where
  path : request.uri.path = path
  method : request.method = "POST"
  json : ∃ header, request.contentType = some header ∧ Http.MediaType.isJson header = true
  fits : request.body.utf8ByteSize ≤ bodyLimit

/-- The body is read as a review. -/
def Reads (request : Http.Request) (review : Admission.Review) : Prop :=
  Decode.ofText Admission.Review.decode request.body = .ok review

/-- The HTTP request delivers a review with this admission request. -/
def Carries (request : Http.Request) (admission : Admission.Request) : Prop :=
  Delivered request ∧ ∃ review inner, Reads request review ∧ review.request = some inner ∧
    admission = { inner with types := review.types }

/-- Ways not to carry an admission request. -/
inductive Malformed (request : Http.Request) : Prop where
  | unknownPath (elsewhere : request.uri.path ≠ path)
  | wrongMethod (other : request.method ≠ "POST")
  | untyped (missing : request.contentType = none)
  | wrongType (header : String) (given : request.contentType = some header)
      (other : Http.MediaType.isJson header = false)
  | tooLarge (long : bodyLimit < request.body.utf8ByteSize)
  | notJson (broken : ¬ Document.IsJson request.body)
  | undecodable (unread : ∀ review, ¬ Reads request review)
  | noRequest (review : Admission.Review) (read : Reads request review)
      (empty : review.request = none)

/-! ### What is extracted -/

section Extraction

variable {request : Http.Request}

theorem extract_of_not_delivered (undelivered : ¬ Delivered request) :
    ∃ rejection, extract request = .error rejection := by
  unfold extract
  split
  · exact ⟨.unknownPath, rfl⟩
  split
  · exact ⟨.wrongMethod, rfl⟩
  split
  · exact ⟨.notJson, rfl⟩
  split
  · exact ⟨.tooLarge, rfl⟩
  next path method json fits =>
    refine absurd ⟨not_not.mp path, not_not.mp method, ?_, Nat.not_lt.mp fits⟩ undelivered
    rw [← Option.any_eq_true]
    simpa using json

theorem Delivered.extract_eq (delivered : Delivered request) :
    extract request = (do
      let review ← (Decode.ofText Admission.Review.decode request.body).mapError .badBody
      review.typedRequest?.elim (.error .noRequest) .ok) := by
  obtain ⟨path, method, json, fits⟩ := delivered
  have typed : request.contentType.any Http.MediaType.isJson = true := by
    rw [Option.any_eq_true]
    exact json
  unfold extract
  rw [if_neg (not_not_intro path), if_neg (not_not_intro method), if_neg (by simp [typed]),
    if_neg (Nat.not_lt.mpr fits)]
  cases Decode.ofText Admission.Review.decode request.body with
  | error failure => rfl
  | ok review =>
      cases given : review.typedRequest? with
      | none => simp [Except.mapError, given, bind, Except.bind]
      | some admission => simp [Except.mapError, given, bind, Except.bind]

theorem Delivered.extract_eq_ok_iff (delivered : Delivered request)
    {admission : Admission.Request} :
    extract request = .ok admission ↔
      ∃ review, Reads request review ∧ review.typedRequest? = some admission := by
  rw [delivered.extract_eq, Fallible.bind_eq_ok_iff]
  simp only [Fallible.mapError_eq_ok_iff]
  refine exists_congr fun review => and_congr_right fun _ => ?_
  cases review.typedRequest? <;> simp

theorem Delivered.extract_of_noRequest (delivered : Delivered request) {review : Admission.Review}
    (read : Reads request review) (empty : review.request = none) :
    extract request = .error .noRequest := by
  rw [delivered.extract_eq, read]
  simp [Except.mapError, bind, Except.bind, Admission.Review.typedRequest?, empty]

theorem extract_eq_ok_iff {admission : Admission.Request} :
    extract request = .ok admission ↔ Carries request admission := by
  constructor
  · intro extracted
    by_cases delivered : Delivered request
    · obtain ⟨review, read, typed⟩ := delivered.extract_eq_ok_iff.mp extracted
      obtain ⟨inner, given, rfl⟩ := Option.map_eq_some_iff.mp typed
      exact ⟨delivered, review, inner, read, given, rfl⟩
    · obtain ⟨rejection, rejected⟩ := extract_of_not_delivered delivered
      cases rejected.symm.trans extracted
  · rintro ⟨delivered, review, inner, read, given, rfl⟩
    have typed : review.typedRequest? = some { inner with types := review.types } :=
      Option.map_eq_some_iff.mpr ⟨inner, given, rfl⟩
    exact delivered.extract_eq_ok_iff.mpr ⟨review, read, typed⟩

theorem malformed_of_not_delivered (undelivered : ¬ Delivered request) : Malformed request := by
  by_contra wellFormed
  apply undelivered
  constructor
  case path => exact by_contra fun elsewhere => wellFormed (.unknownPath elsewhere)
  case method => exact by_contra fun other => wellFormed (.wrongMethod other)
  case fits => exact Nat.not_lt.mp fun long => wellFormed (.tooLarge long)
  case json =>
    cases typed : request.contentType with
    | none => exact absurd (.untyped typed) wellFormed
    | some header =>
        refine ⟨header, rfl, ?_⟩
        by_contra other
        exact wellFormed (.wrongType header typed (Bool.not_eq_true _ ▸ other))

/-- There is nothing between a malformed request and one that carries an admission request. -/
theorem malformed_iff : Malformed request ↔ ∀ admission, ¬ Carries request admission := by
  constructor
  · rintro malformed admission ⟨delivered, review, inner, read, given, _⟩
    cases malformed with
    | unknownPath elsewhere => exact elsewhere delivered.path
    | wrongMethod other => exact other delivered.method
    | untyped missing =>
        obtain ⟨header, typed, _⟩ := delivered.json
        rw [missing] at typed
        cases typed
    | wrongType header typed other =>
        obtain ⟨header, typedJson, isJson⟩ := delivered.json
        cases typed.symm.trans typedJson
        rw [other] at isJson
        cases isJson
    | tooLarge long => exact Nat.not_le.mpr long delivered.fits
    -- A review is not read from a text that stops being JSON, not even in a part of no interest.
    | notJson broken => exact broken (Admission.Review.thorough_decode.isJson read)
    | undecodable unread => exact unread review read
    | noRequest other otherRead empty =>
        cases Except.ok.inj (otherRead.symm.trans read)
        rw [empty] at given
        cases given
  · intro carriesNone
    by_cases delivered : Delivered request
    · cases read : Decode.ofText Admission.Review.decode request.body with
      | error failure =>
          refine .undecodable fun review otherRead => ?_
          cases read.symm.trans otherRead
      | ok review =>
          cases given : review.request with
          | none => exact .noRequest review read given
          | some inner =>
              exact absurd ⟨delivered, review, inner, read, given, rfl⟩ (carriesNone _)
    · exact malformed_of_not_delivered delivered

end Extraction

/-! ### What comes of it -/

theorem Rejection.status_ne (rejection : Rejection) : rejection.reply.status ≠ 200 := by
  cases rejection with
  | badBody failure =>
      unfold reply
      dsimp only
      split <;> simp [Http.Reply.plain]
  | _ => decide

/-- The texts of the replies are not JSON, so that no client can find an admission in them. -/
theorem Rejection.not_admits (rejection : Rejection) : ¬ rejection.reply.Admits := by
  cases rejection with
  | unknownPath => exact Http.Reply.not_admits_of_text rfl Document.not_isJson_empty
  | wrongMethod => exact Http.Reply.not_admits_of_text rfl Document.not_isJson_empty
  | notJson =>
      exact Http.Reply.not_admits_of_text rfl (Document.not_isJson_of_isUpper rfl rfl)
  | tooLarge =>
      exact Http.Reply.not_admits_of_text rfl (Document.not_isJson_of_isUpper rfl rfl)
  | badBody failure =>
      unfold reply
      dsimp only
      split <;> exact Http.Reply.not_admits_of_text rfl
        (Document.not_isJson_of_isUpper String.toList_append rfl)
  | noRequest =>
      unfold reply
      rw [Admission.Response.admits_iff]
      simp [Admission.Response.invalid]

variable (gateway : Gateway) (seconds : Float) (health : Health) (request : Http.Request)

theorem admits_answer_iff (admission : Admission.Request) :
    (answer gateway seconds health admission).reply.Admits ↔
      (gateway.review admission).verdict = .allow := by
  have made := gateway.review_made admission
  have sent : (answer gateway seconds health admission).reply =
      replyTo admission (gateway.review admission).verdict := rfl
  rw [sent, admits_replyTo_iff admission made.coherent, made.eq_allow_iff]

theorem admits_handle_iff :
    (handle gateway seconds health request).reply.Admits ↔
      ∃ admission, Carries request admission ∧ (gateway.review admission).verdict = .allow := by
  simp only [← extract_eq_ok_iff]
  cases extracted : extract request with
  | error rejection =>
      rw [handle, extracted]
      simpa using rejection.not_admits
  | ok admission =>
      rw [handle, extracted, admits_answer_iff]
      simp

/-- The request is turned away and changes nothing. The source is not asked: whatever the action of
asking is, the program for the request does not contain it. -/
structure Untouched : Prop where
  status : (handle gateway seconds health request).reply.status ≠ 200
  metrics : (handle gateway seconds health request).health.metrics = health.metrics
  ready : (handle gateway seconds health request).health.ready = health.ready
  unasked : ∀ (m : Type → Type) [Monad m] (source : AskedSource m),
    handleIn gateway.config seconds health source request =
      pure (handle gateway seconds health request)

theorem untouched_of_rejected {rejection : Rejection}
    (rejected : extract request = .error rejection) :
    Untouched gateway seconds health request := by
  have turnedAway : handle gateway seconds health request =
      ⟨rejection.reply, health, rejection.log⟩ := by
    rw [handle, rejected]
  constructor
  case status =>
    rw [turnedAway]
    exact rejection.status_ne
  case metrics => rw [turnedAway]
  case ready => rw [turnedAway]
  case unasked =>
    intro m _ source
    rw [turnedAway, handleIn, rejected]

/-- The reply denies in the form of a review, with the status of a bad request. -/
structure DeniesAsBad (reply : Http.Reply) : Prop where
  status : reply.status = 400
  kind : reply.part? ["kind"] = some (.str "AdmissionReview")
  allowed : reply.part? ["response", "allowed"] = some (.bool false)

theorem Rejection.deniesAsBad_noRequest : DeniesAsBad (reply .noRequest) where
  status := rfl
  kind := Admission.Response.part?_kind 400 (.invalid _)
  allowed := Admission.Response.part?_allowed 400 (.invalid _)

/-- What becomes of a request, its body being text: it is malformed and leaves no trace, or it
carries an admission request and is admitted if the gateway allows that. -/
structure Guarded : Prop where
  malformed_iff : Malformed request ↔ ∀ admission, ¬ Carries request admission
  admits_iff : (handle gateway seconds health request).reply.Admits ↔
    ∃ admission, Carries request admission ∧ (gateway.review admission).verdict = .allow
  untouched : Malformed request → Untouched gateway seconds health request
  withoutRequest : Delivered request → ∀ review, Reads request review → review.request = none →
    DeniesAsBad (handle gateway seconds health request).reply
  sameWebhook : ∀ (m : Type → Type) [Monad m] [LawfulMonad m],
    handleIn (m := m) gateway.config seconds health (fun home => pure (gateway.source home))
      request = pure (handle gateway seconds health request)

theorem handle_guarded : Guarded gateway seconds health request := by
  constructor
  case malformed_iff => exact malformed_iff
  case admits_iff => exact admits_handle_iff gateway seconds health request
  case untouched =>
    intro malformed
    cases extracted : extract request with
    | error rejection => exact untouched_of_rejected gateway seconds health request extracted
    | ok admission =>
        exact absurd (extract_eq_ok_iff.mp extracted) (malformed_iff.mp malformed admission)
  case withoutRequest =>
    intro delivered review read empty
    rw [handle, delivered.extract_of_noRequest read empty]
    exact Rejection.deniesAsBad_noRequest
  case sameWebhook =>
    intro m _ _
    exact handleIn_pure gateway.config seconds health gateway.source request

/-- A review that holds no request. -/
def emptyReview : Http.Request where
  method := "POST"
  uri := { path }
  contentType := some "application/json"
  body := (Json.obj [("apiVersion", .str "v1"), ("kind", .str "AdmissionReview")]).compact

theorem reads_emptyReview : Reads emptyReview ⟨⟨"v1", "AdmissionReview"⟩, none⟩ := by
  unfold Reads
  cbv

theorem delivered_emptyReview : Delivered emptyReview where
  path := rfl
  method := rfl
  json := ⟨"application/json", rfl, by cbv⟩
  fits := by cbv

theorem handle_guarded_emptyReview :
    DeniesAsBad (handle ⟨default, .fixed []⟩ 0 {} emptyReview).reply ∧
      Untouched ⟨default, .fixed []⟩ 0 {} emptyReview :=
  have guarded : Guarded ⟨default, .fixed []⟩ 0 {} emptyReview := handle_guarded _ _ _ _
  ⟨guarded.withoutRequest delivered_emptyReview _ reads_emptyReview rfl,
    guarded.untouched (.noRequest _ reads_emptyReview rfl)⟩

end AvailabilityGate.Webhook
