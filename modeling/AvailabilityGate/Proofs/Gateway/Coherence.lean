import AvailabilityGate.Proofs.Gateway.Decision

/-!
Owns what the parts of a verdict say about each other. A verdict admits, or it denies for a fault,
or it denies for violations, and the gateway gives no others.

Main statement: in each of these verdicts the flag, the denial and the violations agree.
-/

namespace AvailabilityGate

/-! ### No denial is without words -/

theorem DenyReason.name_ne_empty (reason : DenyReason) : reason.name ≠ "" := by
  cases reason <;> decide

theorem DenyReason.code_ne_zero (reason : DenyReason) : reason.code ≠ 0 := by
  cases reason <;> decide

theorem DenyReason.code_name_mem (reason : DenyReason) :
    (reason.code, reason.name) ∈
      [(400, "BadRequest"), (500, "InternalError"), (406, "NotAcceptable")] := by
  cases reason <;> decide

theorem GatewayFault.message_ne_empty (fault : GatewayFault) : fault.message ≠ "" := by
  cases fault with
  | unresolved fault =>
      unfold GatewayFault.message ResolveFault.message
      simp
  | _ =>
      unfold GatewayFault.message
      simp

theorem Violation.render_ne_empty (violation : Violation) : violation.render ≠ "" := by
  unfold Violation.render
  split <;> simp

theorem Violation.aggregate_ne_empty {violations : List Violation} (nonempty : violations ≠ []) :
    Violation.aggregate violations ≠ "" := by
  match violations with
  | [] => exact absurd rfl nonempty
  | [only] => exact only.render_ne_empty
  | first :: second :: more => simp [Violation.aggregate]

namespace Verdict

/-- The ways in which verdicts come about. -/
inductive Made : Verdict → Prop where
  | allow : Made .allow
  | ofFault (fault : GatewayFault) : Made (.ofFault fault)
  | ofViolations (violations : List Violation) : Made (.ofViolations violations)

/-- The parts of a verdict agree. -/
structure Coherent (verdict : Verdict) : Prop where
  allowed_iff : verdict.allowed = true ↔ verdict.denial = none
  violations_iff : verdict.violations ≠ [] ↔ verdict.reason = some .notAcceptable
  aggregates : ∀ denial, verdict.denial = some denial → denial.reason = .notAcceptable →
    denial.message = Violation.aggregate verdict.violations
  speaks : ∀ denial, verdict.denial = some denial → denial.message ≠ ""

theorem coherent_allow : Coherent .allow where
  allowed_iff := by simp [allow]
  violations_iff := by simp [allow, reason]
  aggregates := by simp [allow]
  speaks := by simp [allow]

theorem coherent_ofFault (fault : GatewayFault) : Coherent (.ofFault fault) where
  allowed_iff := by simp [ofFault]
  violations_iff := by
    cases blame : fault.blame <;> simp [ofFault, reason, blame, Blame.denyReason]
  aggregates := by
    rintro _ ⟨rfl⟩ isNotAcceptable
    cases blame : fault.blame <;> simp [blame, Blame.denyReason] at isNotAcceptable
  speaks := by
    rintro _ ⟨rfl⟩
    exact fault.message_ne_empty

theorem coherent_ofViolations (violations : List Violation) :
    Coherent (.ofViolations violations) := by
  by_cases nonempty : violations = []
  · subst nonempty
    exact coherent_allow
  · rw [ofViolations_of_ne_nil nonempty]
    constructor
    case allowed_iff => simp
    case violations_iff => simpa [reason] using nonempty
    case aggregates =>
      rintro _ ⟨rfl⟩ _
      rfl
    case speaks =>
      rintro _ ⟨rfl⟩
      exact Violation.aggregate_ne_empty nonempty

theorem Made.coherent {verdict : Verdict} (made : verdict.Made) : verdict.Coherent := by
  cases made with
  | allow => exact coherent_allow
  | ofFault fault => exact coherent_ofFault fault
  | ofViolations violations => exact coherent_ofViolations violations

/-- Every other verdict has a denial. -/
theorem Made.eq_allow_iff {verdict : Verdict} (made : verdict.Made) :
    verdict = .allow ↔ verdict.denial = none := by
  cases made with
  | allow => simp [Verdict.allow]
  | ofFault fault => simp [Verdict.allow, Verdict.ofFault]
  | ofViolations violations =>
      by_cases nonempty : violations = []
      · subst nonempty
        simp [Verdict.allow, Verdict.ofViolations]
      · rw [ofViolations_of_ne_nil nonempty]
        simp [Verdict.allow]

end Verdict

/-- Whatever the source answers, the verdict on a request comes about in one of the three ways. -/
theorem Gateway.review_made (gateway : Gateway) (request : Admission.Request) :
    (gateway.review request).verdict.Made := by
  obtain ⟨reason, due⟩ := due_exists gateway request
  match reason, due with
  | none, admitted =>
      rw [Admitted.verdict admitted]
      exact .allow
  | some .badRequest, ⟨fault, undecoded⟩ =>
      rw [undecoded.verdict]
      exact .ofFault fault
  | some .internalError, ⟨fault, unresolved⟩ =>
      rw [unresolved.verdict]
      exact .ofFault fault
  | some .notAcceptable, ⟨violations, violating⟩ =>
      rw [violating.verdict, ← Verdict.ofViolations_of_ne_nil violating.1]
      exact .ofViolations violations

end AvailabilityGate
