import AvailabilityGate.Gateway.Basic
import AvailabilityGate.Proofs.Governing.Fold

/-!
Owns what the verdict on a request is held to, and that the gateway gives this verdict. The ways
that a review can end are stated on the request, the configuration and the source. Where the
policies come in, they are stated on the best of them and on the first malformed selector, and not
on the run of the choice.

Main statement: of the ways to end there is one for each request, and the verdict says which.
-/

namespace AvailabilityGate

/-! ### Sources -/

namespace PolicySource

/-- No fault of the source is blamed on the client. -/
def NeverUndecodable (source : PolicySource) : Prop :=
  ∀ home text, source home ≠ .error (.undecodable text)

theorem neverUndecodable_fixed (policies : List Policy) : (fixed policies).NeverUndecodable := by
  intro home text failed
  cases failed

theorem neverUndecodable_cluster (ask : Http.Uri → Listing.Answer) :
    (cluster ask).NeverUndecodable := by
  intro home text failed
  obtain ⟨_, _, impossible⟩ := Fallible.mapError_eq_error_iff.mp failed
  cases impossible

theorem neverUndecodable_failing_iff {fault : GatewayFault} :
    (failing fault).NeverUndecodable ↔ fault.blame = .server := by
  unfold NeverUndecodable failing
  cases fault <;> simp [GatewayFault.blame]

end PolicySource

/-! ### What a verdict says -/

namespace Verdict

def reason (verdict : Verdict) : Option DenyReason :=
  verdict.denial.map Denial.reason

/-- The code and the name under which a denial is reported. -/
def status (verdict : Verdict) : Option (Nat × String) :=
  verdict.reason.map fun reason => (reason.code, reason.name)

theorem status_eq_iff {verdict : Verdict} {reason : DenyReason} :
    verdict.status = some (reason.code, reason.name) ↔ verdict.reason = some reason := by
  unfold status
  cases verdict.reason with
  | none => simp
  | some given =>
      cases given <;> cases reason <;> simp [DenyReason.code]

theorem reason_ofFault (fault : GatewayFault) :
    (ofFault fault).reason = some fault.blame.denyReason :=
  rfl

theorem ofViolations_of_ne_nil {violations : List Violation} (nonempty : violations ≠ []) :
    ofViolations violations = {
      allowed := false
      violations
      denial := some ⟨.notAcceptable, Violation.aggregate violations⟩ } := by
  have notEmpty : ¬ violations.isEmpty = true := by
    simpa using nonempty
  rw [ofViolations, if_neg notEmpty]

end Verdict

namespace Gateway

/-! ### The ways that a review can end -/

section Ends

variable (gateway : Gateway) (request : Admission.Request)

/-- The request names a namespace that is let pass. -/
def Ignored : Prop :=
  ∃ home, request.home = some home ∧ home ∈ gateway.config.ignored

/-- The request is not let pass, and its object is a Deployment that lives in the namespace. -/
structure Carries (deployment : Deployment) (home : String) : Prop where
  watched : ¬ Ignored gateway request
  decodes : ∃ manifest, request.object = some manifest ∧ manifest.deployment = .ok deployment
  lives : deployment.metadata.home.or request.home = some home

/-- The request carries the Deployment, whose namespace has the policies, and none of their
selectors fails the choice among them. -/
structure Judges (deployment : Deployment) (policies : List Policy) : Prop where
  listed : ∃ home, Carries gateway request deployment home ∧ gateway.source home = .ok policies
  resolves : ∀ position,
    ¬ Policy.FailsAt gateway.config.unsetSelector deployment.labels policies position

inductive Admitted : Prop where
  | ignored (ignored : Ignored gateway request)
  | ungoverned {deployment : Deployment} {policies : List Policy}
      (judges : Judges gateway request deployment policies)
      (noneMatches : ∀ policy ∈ policies,
        ¬ policy.Matches gateway.config.unsetSelector deployment.labels)
  | satisfied {deployment : Deployment} {policies : List Policy} {best : Policy}
      (judges : Judges gateway request deployment policies)
      (isBest : Policy.IsBest gateway.config.unsetSelector deployment.labels policies best)
      (noViolations : (best.spec.validate deployment).violations = [])

/-- The best policy finds the violations in the Deployment. -/
def Violating (violations : List Violation) : Prop :=
  violations ≠ [] ∧ ∃ deployment policies best,
    Judges gateway request deployment policies ∧
      Policy.IsBest gateway.config.unsetSelector deployment.labels policies best ∧
      (best.spec.validate deployment).violations = violations

/-- The request carries no Deployment with a namespace. -/
inductive Undecoded : GatewayFault → Prop where
  | missing (watched : ¬ Ignored gateway request) (absent : request.object = none) :
      Undecoded (.undecodable "missing object in request")
  | malformed {manifest : Manifest} {failure : DecodeFailure}
      (watched : ¬ Ignored gateway request)
      (object : request.object = some manifest)
      (fails : manifest.deployment = .error failure) :
      Undecoded (.undecodable failure.message)
  | homeless {manifest : Manifest} {deployment : Deployment}
      (watched : ¬ Ignored gateway request)
      (object : request.object = some manifest)
      (decodes : manifest.deployment = .ok deployment)
      (noHome : deployment.metadata.home = none ∧ request.home = none) :
      Undecoded (.undecodable "missing namespace")

/-- The policies are not listed, or a malformed selector fails the choice among them. -/
inductive Unresolved : GatewayFault → Prop where
  | unlisted {deployment : Deployment} {home : String} {fault : GatewayFault}
      (carries : Carries gateway request deployment home)
      (fails : gateway.source home = .error fault) :
      Unresolved fault
  | malformed {deployment : Deployment} {home : String} {policies : List Policy} {position : Nat}
      {fault : ResolveFault}
      (carries : Carries gateway request deployment home)
      (listed : gateway.source home = .ok policies)
      (fails : Policy.IsFirstFailure gateway.config.unsetSelector deployment.labels policies
        position fault) :
      Unresolved (.unresolved fault)

/-- The reason that there is to deny the request, or that there is none. -/
def Due : Option DenyReason → Prop
  | none => Admitted gateway request
  | some .notAcceptable => ∃ violations, Violating gateway request violations
  | some .badRequest => ∃ fault, Undecoded gateway request fault
  | some .internalError => ∃ fault, Unresolved gateway request fault

/-- The verdict that the request has to be given. -/
structure Decides (verdict : Verdict) : Prop where
  admits : verdict = .allow ↔ Admitted gateway request
  notAcceptable : verdict.status = some (406, "NotAcceptable") ↔
    ∃ violations, Violating gateway request violations
  badRequest : verdict.status = some (400, "BadRequest") ↔
    ∃ fault, Undecoded gateway request fault
  internalError : verdict.status = some (500, "InternalError") ↔
    ∃ fault, Unresolved gateway request fault
  exactlyOne : ∃! reason, Due gateway request reason
  /-- The violations and their aggregate, and nothing else. -/
  reportsViolations : ∀ violations, Violating gateway request violations →
    verdict = {
      allowed := false
      violations
      denial := some ⟨.notAcceptable, Violation.aggregate violations⟩ }
  /-- The fault alone. -/
  reportsFault : ∀ fault,
    Undecoded gateway request fault ∨ Unresolved gateway request fault →
      verdict = {
        allowed := false
        violations := []
        denial := some ⟨fault.blame.denyReason, fault.message⟩ }

end Ends

variable {gateway : Gateway} {request : Admission.Request}
variable {deployment : Deployment} {home : String} {policies : List Policy}

/-! ### The verdict at each end -/

theorem ignores_iff : gateway.config.ignores request.home = true ↔ Ignored gateway request := by
  unfold GatewayConfig.ignores Ignored
  rw [Option.any_eq_true]
  simp

theorem review_of_ignored (ignored : Ignored gateway request) :
    (gateway.review request).verdict = .allow := by
  rw [review, if_pos (ignores_iff.mpr ignored)]

theorem review_of_undecoded {fault : GatewayFault} (watched : ¬ Ignored gateway request)
    (fails : deployment? request.object = .error fault) :
    (gateway.review request).verdict = .ofFault fault := by
  rw [review, if_neg fun ignores => watched (ignores_iff.mp ignores), fails]
  rfl

theorem review_of_deployment (watched : ¬ Ignored gateway request)
    (decodes : deployment? request.object = .ok deployment) :
    gateway.review request = gateway.reviewDeployment request deployment := by
  rw [review, if_neg fun ignores => watched (ignores_iff.mp ignores), decodes]

theorem deployment?_of_decodes {manifest : Manifest} (object : request.object = some manifest)
    (decodes : manifest.deployment = .ok deployment) :
    deployment? request.object = .ok deployment := by
  rw [object, deployment?, decodes]
  rfl

theorem homeOf_eq (deployment : Deployment) (request : Admission.Request) :
    homeOf deployment request = deployment.metadata.home.or request.home :=
  Option.orElse_eq_or

theorem Undecoded.verdict {fault : GatewayFault} (undecoded : Undecoded gateway request fault) :
    (gateway.review request).verdict = .ofFault fault := by
  cases undecoded with
  | missing watched absent =>
      apply review_of_undecoded watched
      rw [absent]
      rfl
  | malformed watched object fails =>
      apply review_of_undecoded watched
      rw [object, deployment?, fails]
      rfl
  | @homeless manifest deployment watched object decodes noHome =>
      have nowhere : homeOf deployment request = none := by
        rw [homeOf_eq, noHome.1, noHome.2]
        rfl
      rw [review_of_deployment watched (deployment?_of_decodes object decodes), reviewDeployment,
        nowhere]

theorem Carries.review_eq (carries : Carries gateway request deployment home) :
    gateway.review request = gateway.reviewDeployment request deployment := by
  obtain ⟨manifest, object, decodes⟩ := carries.decodes
  exact review_of_deployment carries.watched (deployment?_of_decodes object decodes)

theorem Carries.homeOf_eq (carries : Carries gateway request deployment home) :
    homeOf deployment request = some home :=
  (Gateway.homeOf_eq deployment request).trans carries.lives

theorem Carries.verdict_of_unlisted {fault : GatewayFault}
    (carries : Carries gateway request deployment home)
    (fails : gateway.source home = .error fault) :
    (gateway.review request).verdict = .ofFault fault := by
  rw [carries.review_eq, reviewDeployment, carries.homeOf_eq]
  simp only [fails]
  rfl

theorem Carries.verdict_of_listed (carries : Carries gateway request deployment home)
    (listed : gateway.source home = .ok policies) :
    (gateway.review request).verdict =
      match Policy.resolve gateway.config.unsetSelector deployment.labels policies with
      | .error fault => .ofFault (.unresolved fault)
      | .ok none => .allow
      | .ok (some policy) => .ofViolations (policy.spec.validate deployment).violations := by
  rw [carries.review_eq, reviewDeployment, carries.homeOf_eq]
  simp only [listed]
  unfold judge
  cases Policy.resolve gateway.config.unsetSelector deployment.labels policies with
  | error fault => rfl
  | ok chosen =>
      cases chosen with
      | none => rfl
      | some policy => rfl

theorem Unresolved.verdict {fault : GatewayFault} (unresolved : Unresolved gateway request fault) :
    (gateway.review request).verdict = .ofFault fault := by
  cases unresolved with
  | unlisted carries fails => exact carries.verdict_of_unlisted fails
  | malformed carries listed fails =>
      rw [carries.verdict_of_listed listed, Policy.resolve_eq_error_iff.mpr ⟨_, fails⟩]

theorem Judges.verdict_of_ungoverned (judges : Judges gateway request deployment policies)
    (noneMatches : ∀ policy ∈ policies,
      ¬ policy.Matches gateway.config.unsetSelector deployment.labels) :
    (gateway.review request).verdict = .allow := by
  obtain ⟨home, carries, listed⟩ := judges.listed
  have chosen : Policy.resolve gateway.config.unsetSelector deployment.labels policies =
      .ok none := Policy.resolve_eq_ok_iff.mpr ⟨judges.resolves, noneMatches⟩
  rw [carries.verdict_of_listed listed, chosen]

theorem Judges.verdict_of_best {best : Policy} (judges : Judges gateway request deployment policies)
    (isBest : Policy.IsBest gateway.config.unsetSelector deployment.labels policies best) :
    (gateway.review request).verdict =
      .ofViolations (best.spec.validate deployment).violations := by
  obtain ⟨home, carries, listed⟩ := judges.listed
  have chosen : Policy.resolve gateway.config.unsetSelector deployment.labels policies =
      .ok (some best) := Policy.resolve_eq_ok_iff.mpr ⟨judges.resolves, isBest⟩
  rw [carries.verdict_of_listed listed, chosen]

theorem Admitted.verdict (admitted : Admitted gateway request) :
    (gateway.review request).verdict = .allow := by
  cases admitted with
  | ignored ignored => exact review_of_ignored ignored
  | ungoverned judges noneMatches => exact judges.verdict_of_ungoverned noneMatches
  | satisfied judges isBest noViolations =>
      rw [judges.verdict_of_best isBest, noViolations]
      rfl

theorem Violating.verdict {violations : List Violation}
    (violating : Violating gateway request violations) :
    (gateway.review request).verdict = {
      allowed := false
      violations
      denial := some ⟨.notAcceptable, Violation.aggregate violations⟩ } := by
  obtain ⟨nonempty, deployment, policies, best, judges, isBest, found⟩ := violating
  rw [judges.verdict_of_best isBest, found]
  exact Verdict.ofViolations_of_ne_nil nonempty

/-! ### One end for each request -/

/-- A Deployment whose policies are listed is admitted, or violates the best policy, or meets a
malformed selector. -/
theorem Carries.due_of_listed (carries : Carries gateway request deployment home)
    (listed : gateway.source home = .ok policies) : ∃ reason, Due gateway request reason := by
  cases outcome : Policy.resolve gateway.config.unsetSelector deployment.labels policies with
  | error fault =>
      obtain ⟨position, fails⟩ := Policy.resolve_eq_error_iff.mp outcome
      exact ⟨some .internalError, _, .malformed carries listed fails⟩
  | ok chosen =>
      obtain ⟨resolves, optimum⟩ := Policy.resolve_eq_ok_iff.mp outcome
      have judges : Judges gateway request deployment policies :=
        ⟨⟨home, carries, listed⟩, resolves⟩
      cases chosen with
      | none => exact ⟨none, .ungoverned judges optimum⟩
      | some best =>
          by_cases found : (best.spec.validate deployment).violations = []
          · exact ⟨none, .satisfied judges optimum found⟩
          · exact ⟨some .notAcceptable, _, found, deployment, policies, best, judges, optimum, rfl⟩

/-- No request is left without an end. -/
theorem due_exists (gateway : Gateway) (request : Admission.Request) :
    ∃ reason, Due gateway request reason := by
  by_cases ignored : Ignored gateway request
  · exact ⟨none, .ignored ignored⟩
  · cases object : request.object with
    | none => exact ⟨some .badRequest, _, .missing ignored object⟩
    | some manifest =>
        cases decodes : manifest.deployment with
        | error failure => exact ⟨some .badRequest, _, .malformed ignored object decodes⟩
        | ok deployment =>
            cases lives : deployment.metadata.home.or request.home with
            | none =>
                have noHome := Option.or_eq_none_iff.mp lives
                exact ⟨some .badRequest, _, .homeless ignored object decodes noHome⟩
            | some home =>
                have carries : Carries gateway request deployment home :=
                  ⟨ignored, ⟨manifest, object, decodes⟩, lives⟩
                cases listed : gateway.source home with
                | error fault => exact ⟨some .internalError, _, .unlisted carries listed⟩
                | ok policies => exact carries.due_of_listed listed

theorem Undecoded.blame {fault : GatewayFault} (undecoded : Undecoded gateway request fault) :
    fault.blame = .client := by
  cases undecoded <;> rfl

theorem Unresolved.blame {fault : GatewayFault} (unresolved : Unresolved gateway request fault)
    (neverUndecodable : gateway.source.NeverUndecodable) : fault.blame = .server := by
  cases unresolved with
  | unlisted carries fails =>
      cases fault with
      | undecodable text => exact absurd fails (neverUndecodable _ text)
      | _ => rfl
  | malformed carries listed fails => rfl

/-- The verdict gives the reason that there is. -/
theorem Due.verdict_reason {reason : Option DenyReason} (due : Due gateway request reason)
    (neverUndecodable : gateway.source.NeverUndecodable) :
    (gateway.review request).verdict.reason = reason := by
  match reason, due with
  | none, admitted => exact congrArg Verdict.reason admitted.verdict
  | some .notAcceptable, ⟨violations, violating⟩ => exact congrArg Verdict.reason violating.verdict
  | some .badRequest, ⟨fault, undecoded⟩ =>
      rw [undecoded.verdict, Verdict.reason_ofFault, undecoded.blame]
      rfl
  | some .internalError, ⟨fault, unresolved⟩ =>
      rw [unresolved.verdict, Verdict.reason_ofFault, unresolved.blame neverUndecodable]
      rfl

theorem verdict_reason_eq_iff {reason : Option DenyReason}
    (neverUndecodable : gateway.source.NeverUndecodable) :
    (gateway.review request).verdict.reason = reason ↔ Due gateway request reason := by
  constructor
  · intro given
    obtain ⟨due, isDue⟩ := due_exists gateway request
    have same : due = reason := (isDue.verdict_reason neverUndecodable).symm.trans given
    exact same ▸ isDue
  · intro due
    exact due.verdict_reason neverUndecodable

theorem status_iff (reason : DenyReason) (neverUndecodable : gateway.source.NeverUndecodable) :
    (gateway.review request).verdict.status = some (reason.code, reason.name) ↔
      Due gateway request (some reason) :=
  Verdict.status_eq_iff.trans (verdict_reason_eq_iff neverUndecodable)

/-- The gateway decides every request as it has to be decided. A source that blamed the client would
turn an internal error into a bad request. -/
theorem review_decides (gateway : Gateway) (request : Admission.Request)
    (neverUndecodable : gateway.source.NeverUndecodable) :
    Decides gateway request (gateway.review request).verdict where
  admits := by
    constructor
    · intro allowed
      have noReason : (gateway.review request).verdict.reason = none :=
        congrArg Verdict.reason allowed
      exact (verdict_reason_eq_iff neverUndecodable).mp noReason
    · exact Admitted.verdict
  notAcceptable := status_iff .notAcceptable neverUndecodable
  badRequest := status_iff .badRequest neverUndecodable
  internalError := status_iff .internalError neverUndecodable
  exactlyOne := by
    refine ⟨(gateway.review request).verdict.reason, ?_, ?_⟩
    · exact (verdict_reason_eq_iff neverUndecodable).mp rfl
    · intro reason due
      exact (due.verdict_reason neverUndecodable).symm
  reportsViolations := fun _ violating => violating.verdict
  reportsFault := by
    intro fault ended
    rcases ended with undecoded | unresolved
    · exact undecoded.verdict
    · exact unresolved.verdict

/-- Three replicas are asked for, everywhere but in `kube-system`. -/
def strictGateway : Gateway where
  config := .ofNames ["kube-system"] .matchAll
  source := .fixed [{
    metadata := { name := some "replicas", home := some "default" }
    spec := { replicas := some { minimum := 3 } } }]

/-- A Deployment of one replica is to be created. -/
def singleReplica (home : String) : Admission.Request where
  uid := "1"
  home := some home
  operation := .create
  object := some {
    types := some ⟨"apps/v1", "Deployment"⟩
    metadata := { name := some "web" }
    rest := [("spec", .obj [("replicas", .int 1)])] }

theorem review_decides_singleReplica :
    strictGateway.source.NeverUndecodable ∧
      Admitted strictGateway (singleReplica "kube-system") ∧
      ∃ violations, Violating strictGateway (singleReplica "default") violations := by
  have neverUndecodable : strictGateway.source.NeverUndecodable :=
    PolicySource.neverUndecodable_fixed _
  refine ⟨neverUndecodable, ?_, ?_⟩
  · exact (review_decides strictGateway (singleReplica "kube-system") neverUndecodable).admits.mp rfl
  · have decided := review_decides strictGateway (singleReplica "default") neverUndecodable
    exact decided.notAcceptable.mp rfl

end Gateway

end AvailabilityGate
