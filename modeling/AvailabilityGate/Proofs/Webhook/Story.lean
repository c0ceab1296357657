import AvailabilityGate.Proofs.Admission.Answer
import AvailabilityGate.Proofs.Gateway.Coherence
import AvailabilityGate.Proofs.Metrics.Counting
import AvailabilityGate.Webhook

/-!
Owns what an answered request leaves behind: the review in the reply, the counter that is moved, and
the last event in the log. Each is made from another part of the verdict, and they agree because the
parts of a verdict do.

Main statement: reply, metrics and log tell the same story of every request.
-/

namespace AvailabilityGate.Webhook

/-- The reply shows the code, the reason and the message of a denial. -/
structure ShowsDenial (reply : Http.Reply) (denial : Denial) : Prop where
  code : reply.part? ["response", "status", "code"] = some (.int denial.reason.code)
  known : (denial.reason.code, denial.reason.name) ∈
    [(400, "BadRequest"), (500, "InternalError"), (406, "NotAcceptable")]
  reason : reply.part? ["response", "status", "reason"] = some (.str denial.reason.name)
  message : reply.part? ["response", "status", "message"] = some (.str denial.message)

/-- One counter of requests is moved by one. -/
def CountsOnce (before after : Metrics) (counter : Metrics.Outcome) : Prop :=
  ∀ outcome, after.requestsWith outcome =
    before.requestsWith outcome + if outcome = counter then 1 else 0

/-- Reply, metrics and log say the same of a request, and it is what the verdict says. -/
structure OneStory
    (request : Admission.Request)
    (verdict : Verdict)
    (before : Metrics)
    (outcome : Outcome) :
    Prop where
  coherent : verdict.Coherent
  uid : outcome.reply.part? ["response", "uid"] = some (.str request.uid)
  allowed : outcome.reply.part? ["response", "allowed"] = some (.bool verdict.allowed)
  denial : ∀ denial, verdict.denial = some denial → ShowsDenial outcome.reply denial
  countsAllowed : outcome.reply.Admits →
    ∃ counter, CountsOnce before outcome.health.metrics counter ∧
      counter.labels = ("allowed", "")
  countsDenied : ¬ outcome.reply.Admits →
    ∃ counter reason, CountsOnce before outcome.health.metrics counter ∧
      counter.labels = ("denied", reason) ∧
      outcome.reply.part? ["response", "status", "reason"] = some (.str reason)
  logsAllowed : outcome.reply.Admits ↔
    outcome.log.getLast? =
      some ⟨.info, "Admission request allowed", [("uid", request.uid)]⟩
  logsDenied : ¬ outcome.reply.Admits → ∃ uid reason message,
    outcome.log.getLast? = some ⟨.warn, "Admission request denied",
      [("uid", uid), ("reason", reason), ("message", message)]⟩ ∧
    outcome.reply.part? ["response", "uid"] = some (.str uid) ∧
    outcome.reply.part? ["response", "status", "reason"] = some (.str reason) ∧
    outcome.reply.part? ["response", "status", "message"] = some (.str message)

/-! ### The reply -/

section Reply

variable (request : Admission.Request) {verdict : Verdict}

/-- The reply to a request that was given a verdict. -/
def replyTo (request : Admission.Request) (verdict : Verdict) : Http.Reply :=
  .json 200 (Admission.Response.ofVerdict request verdict).encode

theorem part?_uid_replyTo (verdict : Verdict) :
    (replyTo request verdict).part? ["response", "uid"] = some (.str request.uid) := by
  unfold replyTo
  rw [Admission.Response.part?_uid]
  unfold Admission.Response.ofVerdict
  cases verdict.denial <;> rfl

theorem part?_allowed_replyTo (coherent : verdict.Coherent) :
    (replyTo request verdict).part? ["response", "allowed"] = some (.bool verdict.allowed) := by
  unfold replyTo
  rw [Admission.Response.part?_allowed]
  cases given : verdict.denial with
  | none =>
      rw [coherent.allowed_iff.mpr given, Admission.Response.ofVerdict, given]
  | some denial =>
      have denied : verdict.allowed = false := by
        rw [← Bool.not_eq_true, coherent.allowed_iff, given]
        simp
      rw [denied, Admission.Response.ofVerdict, given]

theorem admits_replyTo_iff (coherent : verdict.Coherent) :
    (replyTo request verdict).Admits ↔ verdict.denial = none := by
  unfold Http.Reply.Admits
  rw [part?_allowed_replyTo request coherent, ← coherent.allowed_iff]
  simp

theorem showsDenial_replyTo (coherent : verdict.Coherent) {denial : Denial}
    (given : verdict.denial = some denial) : ShowsDenial (replyTo request verdict) denial := by
  unfold replyTo
  rw [Admission.Response.ofVerdict, given]
  -- A member of the status is left out when it is empty; none of these is.
  constructor
  case code =>
    rw [Admission.Response.part?_status, Admission.ResponseStatus.get?_encode]
    simp [DenyReason.code_ne_zero]
  case known => exact denial.reason.code_name_mem
  case reason =>
    rw [Admission.Response.part?_status, Admission.ResponseStatus.get?_encode]
    simp [DenyReason.name_ne_empty]
  case message =>
    rw [Admission.Response.part?_status, Admission.ResponseStatus.get?_encode]
    simp [coherent.speaks denial given]

end Reply

/-! ### The counter and the log -/

theorem verdictEvent_eq_allowed_iff (request : Admission.Request) (verdict : Verdict) :
    verdictEvent request verdict =
        ⟨.info, "Admission request allowed", [("uid", request.uid)]⟩ ↔
      verdict.denial = none := by
  unfold verdictEvent
  cases verdict.denial <;> simp

variable (gateway : Gateway) (seconds : Float) (health : Health) (request : Admission.Request)

theorem getLast?_log_answer :
    (answer gateway seconds health request).log.getLast? =
      some (verdictEvent request (gateway.review request).verdict) := by
  simp only [answer, List.getLast?_concat]

/-- Whatever the gateway decides, the three tell it alike. -/
theorem answer_tells_oneStory :
    OneStory request (gateway.review request).verdict health.metrics
      (answer gateway seconds health request) := by
  have coherent := (gateway.review_made request).coherent
  have counts : CountsOnce health.metrics (answer gateway seconds health request).health.metrics
      (.ofVerdict (gateway.review request).verdict) :=
    health.metrics.requestsWith_record (gateway.review request).verdict seconds
  have lastEvent := getLast?_log_answer gateway seconds health request
  have sent : (answer gateway seconds health request).reply =
      replyTo request (gateway.review request).verdict := rfl
  have admits := admits_replyTo_iff request coherent
  constructor
  case coherent => exact coherent
  case uid => exact part?_uid_replyTo request _
  case allowed => exact part?_allowed_replyTo request coherent
  case denial => exact fun _ given => showsDenial_replyTo request coherent given
  case countsAllowed =>
    intro admitted
    exact ⟨_, counts, coherent.labels_admitted (admits.mp admitted)⟩
  case countsDenied =>
    intro denied
    obtain ⟨denial, given⟩ := Option.ne_none_iff_exists'.mp (mt admits.mpr denied)
    exact ⟨_, denial.reason.name, counts, coherent.labels_denied given,
      (showsDenial_replyTo request coherent given).reason⟩
  case logsAllowed =>
    rw [lastEvent, Option.some_inj, verdictEvent_eq_allowed_iff, sent]
    exact admits
  case logsDenied =>
    intro denied
    obtain ⟨denial, given⟩ := Option.ne_none_iff_exists'.mp (mt admits.mpr denied)
    refine ⟨request.uid, denial.reason.name, denial.message, ?_, part?_uid_replyTo request _,
      (showsDenial_replyTo request coherent given).reason,
      (showsDenial_replyTo request coherent given).message⟩
    rw [lastEvent, verdictEvent, given]

end AvailabilityGate.Webhook
