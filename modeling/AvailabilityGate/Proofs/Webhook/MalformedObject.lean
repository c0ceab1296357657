import AvailabilityGate.Proofs.Admission.Object
import AvailabilityGate.Proofs.Document.Compact
import AvailabilityGate.Proofs.Manifest.Detour
import AvailabilityGate.Proofs.Manifest.Reading
import AvailabilityGate.Proofs.Webhook.Rejection

/-!
Owns what becomes of a review whose object is malformed. An object is looked at twice: as a manifest
when the body of the request is read, and as a Deployment by the gateway. What fails the first time
is never seen by the gateway, which would have let it pass in a namespace that is ignored.

Bodies are texts, so these theorems do not cover a body whose bytes are not UTF-8.

Main statements: a review is answered if and only if its object can be read as a manifest, and
turned away for the object's own fault otherwise; a review in an ignored namespace that is turned
away.
-/

namespace AvailabilityGate

open Fallible

namespace Webhook

open Admission (Envelope)

/-- Whatever stands in place of the object can be read as a manifest, or is null. The parser itself
refuses some of what is JSON: numbers that are too large, lone surrogates, containers in too many
others. Such a part is passed over where nobody keeps it. -/
def Legible (object : Document) : Prop :=
  Decode.Decodes (Decode.optional Manifest.decode) .text object

/-- The HTTP request delivers the review with this object. -/
structure Sends (request : Http.Request) (envelope : Envelope) (object : Document) : Prop where
  delivered : Delivered request
  read : (Document.read request.body).document = envelope.around object
  nothingTrails : (Document.read request.body).trailing = false

/-- The reply is an admission review that answers the request. -/
structure Answers (reply : Http.Reply) (review : Admission.Review) (inner : Admission.Request) :
    Prop where
  status : reply.status = 200
  kind : reply.part? ["kind"] = some (.str review.types.kind)
  uid : reply.part? ["response", "uid"] = some (.str inner.uid)

/-- The reply is a text that says why the object could not be read. -/
structure TurnsAway (reply : Http.Reply) (failure : DecodeFailure) : Prop where
  status : reply.status = if failure.cause.isSyntax then 400 else 422
  text : ∃ front, reply.body = .text (front ++ failure.message)
  notAdmits : ¬ reply.Admits

theorem exists_placedMessage (failure : DecodeFailure) :
    ∃ front, failure.placedMessage = front ++ failure.message := by
  unfold DecodeFailure.placedMessage
  dsimp only
  split
  · exact ⟨_, rfl⟩
  · exact ⟨"", by simp⟩

theorem Rejection.turnsAway_badBody {placed failure : DecodeFailure}
    (cause : placed.cause = failure.cause) : TurnsAway (reply (.badBody placed)) failure where
  status := by
    unfold reply
    dsimp only
    rw [cause]
    split <;> rfl
  text := by
    obtain ⟨place, placedMessage⟩ := exists_placedMessage placed
    have message : placed.message = failure.message := congrArg DecodeCause.message cause
    unfold reply
    dsimp only
    rw [placedMessage, message]
    split
    · exact ⟨_, congrArg Http.Body.text String.append_assoc.symm⟩
    · exact ⟨_, congrArg Http.Body.text String.append_assoc.symm⟩
  notAdmits := Rejection.not_admits _

theorem TurnsAway.not_answers {reply : Http.Reply} {failure : DecodeFailure}
    {review : Admission.Review} {inner : Admission.Request} (turnsAway : TurnsAway reply failure) :
    ¬ Answers reply review inner := by
  intro answers
  have status := answers.status.symm.trans turnsAway.status
  split at status <;> simp at status

section Objects

variable {request : Http.Request} {envelope : Envelope} {object : Document} {value : Json}
  {review : Admission.Review} {inner : Admission.Request}

theorem Sends.ofText_eq (sends : Sends request envelope object) :
    Decode.ofText Admission.Review.decode request.body =
      Admission.Review.decode .text (envelope.around object) := by
  rw [Decode.ofText, sends.read, sends.nothingTrails]
  cases Admission.Review.decode .text (envelope.around object) <;> rfl

theorem Sends.extract_eq_ok (sends : Sends request envelope object)
    (wellFormed : envelope.WellFormed review inner) {decoded : Option Manifest}
    (read : Decode.optional Manifest.decode .text object = .ok decoded) :
    extract request = .ok { inner with object := decoded, types := review.types } := by
  have reads : Reads request { review with request := some { inner with object := decoded } } :=
    sends.ofText_eq.trans (Envelope.decode_around wellFormed read)
  exact extract_eq_ok_iff.mpr ⟨sends.delivered, _, _, reads, rfl, rfl⟩

theorem Sends.extract_eq_error (sends : Sends request envelope object)
    (wellFormed : envelope.WellFormed review inner) {failure : DecodeFailure}
    (refused : Decode.optional Manifest.decode .text object = .error failure) :
    ∃ placed, extract request = .error (.badBody placed) ∧ placed.cause = failure.cause := by
  obtain ⟨placed, fails, cause⟩ := Envelope.decode_around_refused wellFormed refused
  refine ⟨placed, ?_, cause⟩
  rw [sends.delivered.extract_eq, sends.ofText_eq, fails]
  rfl

/-- Whatever stands in place of the object decides what becomes of the review: whether it is
answered at all, also where its namespace is ignored, and whether it is denied as a bad request.
Which values are legible and which are certain to be denied does not depend on how they are
spelled. -/
structure DecidedByObject
    (gateway : Gateway)
    (reply : Http.Reply)
    (review : Admission.Review)
    (inner : Admission.Request)
    (object : Document) :
    Prop where
  answers_iff : Answers reply review inner ↔ Legible object
  turnsAway : ∀ failure, Decode.optional Manifest.decode .text object = .error failure →
    TurnsAway reply failure
  ignored : Legible object → Gateway.Ignored gateway inner → reply.Admits
  undecodable : Legible object → ¬ Gateway.Ignored gateway inner →
    ∃ decoded, Decode.optional Manifest.decode .text object = .ok decoded ∧
      ∀ fault, Gateway.deployment? decoded = .error fault →
        ¬ reply.Admits ∧ ShowsDenial reply ⟨.badRequest, fault.message⟩
  legible_iff : ∀ value, object.Spells value → (Legible object ↔ Manifest.Readable value)
  noDeployment : ∀ value, object.Spells value → Manifest.Faithful value →
    ¬ Gateway.Ignored gateway inner →
      (∀ deployment, Decode.ofJson Deployment.decode value ≠ .ok deployment) →
        ¬ reply.Admits ∧ ∃ message, ShowsDenial reply ⟨.badRequest, message⟩

theorem legible_iff_readable (spells : object.Spells value) :
    Legible object ↔ Manifest.Readable value :=
  Manifest.takesIf_optional value spells

variable (gateway : Gateway) (seconds : Float) (health : Health)

theorem answers_replyTo (admission : Admission.Request) (verdict : Verdict)
    (types : admission.types = review.types) (uid : admission.uid = inner.uid) :
    Answers (replyTo admission verdict) review inner where
  status := rfl
  kind := by
    unfold replyTo
    rw [Admission.Response.part?_kind, ← types]
    unfold Admission.Response.ofVerdict
    cases verdict.denial <;> rfl
  uid := by rw [part?_uid_replyTo, uid]

theorem blame_deployment? {object : Option Manifest} {fault : GatewayFault}
    (fails : Gateway.deployment? object = .error fault) : fault.blame = .client := by
  cases object with
  | none =>
      cases fails
      rfl
  | some manifest =>
      obtain ⟨failure, _, rfl⟩ := mapError_eq_error_iff.mp fails
      rfl

theorem Sends.turnsAway (sends : Sends request envelope object)
    (wellFormed : envelope.WellFormed review inner) {failure : DecodeFailure}
    (refused : Decode.optional Manifest.decode .text object = .error failure) :
    TurnsAway (handle gateway seconds health request).reply failure := by
  obtain ⟨placed, extracted, cause⟩ := sends.extract_eq_error wellFormed refused
  rw [handle, extracted]
  exact Rejection.turnsAway_badBody cause

theorem denial_of_undecodable {admission : Admission.Request} {fault : GatewayFault}
    (watched : ¬ Gateway.Ignored gateway admission)
    (fails : Gateway.deployment? admission.object = .error fault) :
    ¬ (answer gateway seconds health admission).reply.Admits ∧
      ShowsDenial (answer gateway seconds health admission).reply ⟨.badRequest, fault.message⟩ := by
  have coherent := (gateway.review_made admission).coherent
  have denial : (gateway.review admission).verdict.denial =
      some ⟨.badRequest, fault.message⟩ := by
    rw [Gateway.review_of_undecoded watched fails, Verdict.ofFault, blame_deployment? fails]
    rfl
  refine ⟨?_, showsDenial_replyTo admission coherent denial⟩
  rw [admits_answer_iff, Gateway.review_of_undecoded watched fails]
  simp [Verdict.ofFault, Verdict.allow]

theorem decidedByObject_answer {admission : Admission.Request}
    (types : admission.types = review.types) (uid : admission.uid = inner.uid)
    (home : admission.home = inner.home)
    (read : Decode.optional Manifest.decode .text object = .ok admission.object) :
    DecidedByObject gateway (answer gateway seconds health admission).reply review inner
      object := by
  have legible : Legible object := ⟨admission.object, read⟩
  have ignored_iff : Gateway.Ignored gateway admission ↔ Gateway.Ignored gateway inner := by
    rw [Gateway.Ignored, Gateway.Ignored, home]
  constructor
  case answers_iff => exact iff_of_true (answers_replyTo admission _ types uid) legible
  case turnsAway =>
    intro failure refused
    cases refused.symm.trans read
  case ignored =>
    intro _ ignored
    rw [admits_answer_iff, Gateway.review_of_ignored (ignored_iff.mpr ignored)]
  case undecodable =>
    exact fun _ watched => ⟨admission.object, read, fun fault fails =>
      denial_of_undecodable gateway seconds health (mt ignored_iff.mp watched) fails⟩
  case legible_iff => exact fun _ spells => legible_iff_readable spells
  case noDeployment =>
    intro value spells faithful watched undecoded
    obtain ⟨decoded, fault, again, fails⟩ :=
      Manifest.exists_fault_of_faithful faithful spells undecoded
    cases again.symm.trans read
    have denied :=
      denial_of_undecodable gateway seconds health (mt ignored_iff.mp watched) fails
    exact ⟨denied.1, _, denied.2⟩

theorem handle_decidedByObject (sends : Sends request envelope object)
    (wellFormed : envelope.WellFormed review inner) :
    DecidedByObject gateway (handle gateway seconds health request).reply review inner object := by
  cases read : Decode.optional Manifest.decode .text object with
  | ok decoded =>
      have handled : handle gateway seconds health request = answer gateway seconds health
          { inner with object := decoded, types := review.types } := by
        rw [handle, sends.extract_eq_ok wellFormed read]
      rw [handled]
      exact decidedByObject_answer gateway seconds health rfl rfl rfl read
  | error failure =>
      have turnsAway := sends.turnsAway gateway seconds health wellFormed read
      have illegible : ¬ Legible object := by simp [Legible, Decode.Decodes, read]
      constructor
      case answers_iff => exact iff_of_false turnsAway.not_answers illegible
      case turnsAway =>
        intro other refused
        cases refused.symm.trans read
        exact turnsAway
      case ignored => exact fun legible => absurd legible illegible
      case undecodable => exact fun legible => absurd legible illegible
      case legible_iff => exact fun _ spells => legible_iff_readable spells
      case noDeployment =>
        exact fun _ spells faithful =>
          absurd ((legible_iff_readable spells).mpr faithful.readable) illegible

end Objects

/-! ### A review in an ignored namespace -/

/-- A review in a namespace that is let pass, around an object. -/
def systemReview (object : Json) : Json :=
  .obj [
    ("apiVersion", .str "admission.k8s.io/v1"),
    ("kind", .str "AdmissionReview"),
    ("request", .obj [
      ("uid", .str "u"),
      ("kind", .obj [("group", .str "apps"), ("version", .str "v1"), ("kind", .str "Deployment")]),
      ("resource", .obj [
        ("group", .str "apps"), ("version", .str "v1"), ("resource", .str "deployments")]),
      ("namespace", .str "kube-system"),
      ("operation", .str "CREATE"),
      ("userInfo", .obj []),
      ("object", object)])]

def systemRequest (object : Json) : Http.Request where
  method := "POST"
  uri := { path }
  contentType := some "application/json"
  body := (systemReview object).compact

/-- The members around the object of that review. -/
def systemEnvelope : Envelope where
  before := Document.writtenMembers [
    ("apiVersion", .str "admission.k8s.io/v1"), ("kind", .str "AdmissionReview")]
  requestBefore := Document.writtenMembers [
    ("uid", .str "u"),
    ("kind", .obj [("group", .str "apps"), ("version", .str "v1"), ("kind", .str "Deployment")]),
    ("resource", .obj [
      ("group", .str "apps"), ("version", .str "v1"), ("resource", .str "deployments")]),
    ("namespace", .str "kube-system"),
    ("operation", .str "CREATE"),
    ("userInfo", .obj [])]
  requestAfter := []
  after := []

theorem plain_systemReview {object : Json} {depth : Nat} (plain : object.Plain (depth + 1)) :
    (systemReview object).Plain (depth + 3) := by
  have named (last text : String) (distinct : ["group", "version", last].Nodup) :
      (Json.obj [("group", .str "apps"), ("version", .str "v1"), (last, .str text)]).Plain
        (depth + 1) := .obj distinct (by simp [Json.Plain.str])
  have user : (Json.obj []).Plain (depth + 1) := .obj (by decide) (by simp)
  have kind := named "kind" "Deployment" (by decide)
  have resource := named "resource" "deployments" (by decide)
  refine .obj (by simp) ?_
  simp only [List.forall_mem_cons]
  refine ⟨.str _, .str _, .obj (by simp) ?_, by simp⟩
  simp [Json.Plain.str, kind, resource, user, plain]

theorem written_systemReview (object : Json) :
    Document.written (systemReview object) = systemEnvelope.around (.written object) := rfl

def systemAdmission : Admission.Request where
  uid := "u"
  home := some "kube-system"
  operation := .create

theorem wellFormed_systemEnvelope : systemEnvelope.WellFormed
    ⟨⟨"admission.k8s.io/v1", "AdmissionReview"⟩, some systemAdmission⟩ systemAdmission where
  read := by cbv
  holds := rfl

theorem ignored_systemAdmission :
    Gateway.Ignored ⟨default, .fixed []⟩ systemAdmission :=
  ⟨"kube-system", rfl, by decide⟩

theorem sends_systemReview {object : Json} (plain : object.Plain 125)
    (fits : (systemReview object).compact.utf8ByteSize ≤ bodyLimit) :
    Sends (systemRequest object) systemEnvelope (.written object) := by
  have reading := Document.read_compact (plain_systemReview plain)
  have delivered : Delivered (systemRequest object) :=
    { path := rfl, method := rfl, json := ⟨_, rfl, by cbv⟩, fits }
  constructor
  case delivered => exact delivered
  case read => rw [systemRequest, reading, written_systemReview]
  case nothingTrails => rw [systemRequest, reading]

theorem sends_number : Sends (systemRequest (.int 42)) systemEnvelope (.int 42) :=
  sends_systemReview (.int (by decide)) (by decide +kernel)

theorem sends_null : Sends (systemRequest .null) systemEnvelope .null :=
  sends_systemReview .null (by decide +kernel)

/-- What is wrong with a number in place of an object. -/
def notObject (value : Int) : DecodeFailure where
  cause := .wrongType (.int value) "struct DynamicObject"

theorem refused_int (value : Int) :
    Decode.optional Manifest.decode .text (.int value) = .error (notObject value) :=
  rfl

theorem legible_null : Legible .null :=
  ⟨none, rfl⟩

/-- A number in place of the object is not let pass, although the namespace is. -/
theorem not_always_answers :
    ¬ ∀ (gateway : Gateway) (seconds : Float) (health : Health) (request : Http.Request)
        (envelope : Envelope) (object : Document) (value : Json) (review : Admission.Review)
        (inner : Admission.Request),
      Sends request envelope object → envelope.WellFormed review inner → object.Spells value →
        Gateway.Ignored gateway inner →
          Answers (handle gateway seconds health request).reply review inner ∧
            (handle gateway seconds health request).reply.Admits := by
  intro always
  have turnsAway :=
    sends_number.turnsAway ⟨default, .fixed []⟩ 0 {} wellFormed_systemEnvelope (refused_int 42)
  exact turnsAway.notAdmits (always _ _ _ _ _ _ _ _ _ sends_number wellFormed_systemEnvelope
    (.int 42) ignored_systemAdmission).2

theorem handle_decidedByObject_systemReview :
    Gateway.Ignored ⟨default, .fixed []⟩ systemAdmission ∧
      TurnsAway (handle ⟨default, .fixed []⟩ 0 {} (systemRequest (.int 42))).reply (notObject 42) ∧
      (handle ⟨default, .fixed []⟩ 0 {} (systemRequest .null)).reply.Admits ∧
      ∃ message, ShowsDenial (handle ⟨⟨[], .matchNone⟩, .fixed []⟩ 0 {} (systemRequest .null)).reply
        ⟨.badRequest, message⟩ := by
  have number := handle_decidedByObject ⟨default, .fixed []⟩ 0 {} sends_number
    wellFormed_systemEnvelope
  have ignored := handle_decidedByObject ⟨default, .fixed []⟩ 0 {} sends_null
    wellFormed_systemEnvelope
  have watched := handle_decidedByObject ⟨⟨[], .matchNone⟩, .fixed []⟩ 0 {} sends_null
    wellFormed_systemEnvelope
  have undecoded (deployment : Deployment) :
      Decode.ofJson Deployment.decode .null ≠ .ok deployment := by
    simp [Decode.ofJson, Document.ofJson, Deployment.decode, Decode.Record.loose]
  have denied :=
    watched.noDeployment .null .null (.inl rfl) (by simp [Gateway.Ignored]) undecoded
  exact ⟨ignored_systemAdmission, number.turnsAway _ (refused_int 42),
    ignored.ignored legible_null ignored_systemAdmission, denied.2⟩

end Webhook

end AvailabilityGate
