import AvailabilityGate.Proofs.Metrics.Counting
import AvailabilityGate.Proofs.Webhook.MalformedObject
import Mathlib.Data.List.Nodup

/-!
Owns the admission metrics over whole runs. A run mixes HTTP requests to the webhook with verdicts
that are recorded directly; what the policy source answers may change from request to request.

Main statement: after every run the counters are the numbers of the verdicts that were decided in
it, and of their violations, in whatever order the steps were taken.
-/

namespace AvailabilityGate

namespace Metrics

/-- Denied for violations. -/
def Outcome.notAcceptable : Outcome :=
  ⟨false, some .notAcceptable⟩

/-- The counters say of the verdicts what there is to say. -/
structure Counts (metrics : Metrics) (verdicts : List Verdict) : Prop where
  requests : ∀ outcome, metrics.requestsWith outcome = (verdicts.map .ofVerdict).count outcome
  total : metrics.requestTotal = verdicts.length
  observed : metrics.durations.count = verdicts.length
  distinct : (metrics.requests.map fun entry => entry.1.labels).Nodup
  labelled : ∀ entry ∈ metrics.requests, entry.1.labels ∈ [("allowed", ""),
    ("denied", "BadRequest"), ("denied", "InternalError"), ("denied", "NotAcceptable")]
  violations : metrics.violations = (verdicts.map fun verdict => verdict.violations.length).sum
  notAcceptable_le : metrics.requestsWith .notAcceptable ≤ metrics.violations
  violations_eq_zero_iff : metrics.violations = 0 ↔ metrics.requestsWith .notAcceptable = 0

/-- The same outcomes have a counter, and all counters and buckets stand at the same number. -/
structure SameCounters (left right : Metrics) : Prop where
  present : ∀ outcome,
    outcome ∈ left.requests.map Prod.fst ↔ outcome ∈ right.requests.map Prod.fst
  requests : ∀ outcome, left.requestsWith outcome = right.requestsWith outcome
  violations : left.violations = right.violations
  observed : left.durations.count = right.durations.count
  buckets : left.durations.buckets = right.durations.buckets

end Metrics

namespace Verdict

variable {verdict : Verdict}

theorem Coherent.labels_mem (coherent : verdict.Coherent) :
    (Metrics.Outcome.ofVerdict verdict).labels ∈ [("allowed", ""), ("denied", "BadRequest"),
      ("denied", "InternalError"), ("denied", "NotAcceptable")] := by
  cases given : verdict.denial with
  | none =>
      rw [coherent.labels_admitted given]
      simp
  | some denial =>
      rw [coherent.labels_denied given]
      cases denial.reason <;> simp [DenyReason.name]

/-- Violations are counted with the requests that are denied for them, and with no others. -/
theorem Coherent.notAcceptable_iff (coherent : verdict.Coherent) :
    Metrics.Outcome.ofVerdict verdict = .notAcceptable ↔ verdict.violations ≠ [] := by
  rw [coherent.violations_iff]
  unfold Metrics.Outcome.ofVerdict Metrics.Outcome.notAcceptable
  constructor
  · intro same
    exact (Metrics.Outcome.mk.inj same).2
  · intro isNotAcceptable
    have denied : verdict.allowed = false := by
      rw [← Bool.not_eq_true, coherent.allowed_iff]
      intro noDenial
      rw [reason, noDenial] at isNotAcceptable
      cases isNotAcceptable
    exact Metrics.Outcome.mk.injEq .. ▸ ⟨denied, isNotAcceptable⟩

theorem count_notAcceptable_le {verdicts : List Verdict}
    (coherent : ∀ verdict ∈ verdicts, verdict.Coherent) :
    (verdicts.map .ofVerdict).count Metrics.Outcome.notAcceptable ≤
      (verdicts.map fun verdict => verdict.violations.length).sum := by
  induction verdicts with
  | nil => exact Nat.le_refl 0
  | cons head tail inductionHypothesis =>
      obtain ⟨headCoherent, tailCoherent⟩ := List.forall_mem_cons.mp coherent
      have tailBound := inductionHypothesis tailCoherent
      rw [List.map_cons, List.map_cons, List.count_cons, List.sum_cons]
      by_cases counted : Metrics.Outcome.ofVerdict head = .notAcceptable
      · have someViolation : 0 < head.violations.length :=
          List.length_pos_iff.mpr (headCoherent.notAcceptable_iff.mp counted)
        rw [if_pos (by simpa using counted)]
        omega
      · rw [if_neg (by simpa using counted)]
        omega

theorem violations_sum_eq_zero_iff {verdicts : List Verdict}
    (coherent : ∀ verdict ∈ verdicts, verdict.Coherent) :
    (verdicts.map fun verdict => verdict.violations.length).sum = 0 ↔
      (verdicts.map .ofVerdict).count Metrics.Outcome.notAcceptable = 0 := by
  rw [List.sum_eq_zero_iff_forall_eq_nat, List.count_eq_zero, List.forall_mem_map, List.mem_map]
  constructor
  · rintro noViolations ⟨verdict, member, counted⟩
    exact (coherent verdict member).notAcceptable_iff.mp counted
      (List.length_eq_zero_iff.mp (noViolations verdict member))
  · intro notCounted verdict member
    rw [List.length_eq_zero_iff]
    by_contra violations
    exact notCounted ⟨verdict, member, (coherent verdict member).notAcceptable_iff.mpr violations⟩

end Verdict

namespace Metrics

/-- Metrics that have recorded these verdicts and nothing else count them. -/
theorem counts_recordAll {history : List (Verdict × Float)}
    (made : ∀ entry ∈ history, entry.1.Made) :
    (recordAll {} history).Counts (history.map Prod.fst) := by
  have coherent : ∀ verdict ∈ history.map Prod.fst, verdict.Coherent :=
    List.forall_mem_map.mpr fun entry member => (made entry member).coherent
  have requests : ∀ outcome, (recordAll {} history).requestsWith outcome =
      ((history.map Prod.fst).map .ofVerdict).count outcome := by
    intro outcome
    rw [requestsWith_recordAll, List.map_map]
    exact Nat.zero_add _
  have violations : (recordAll {} history).violations =
      ((history.map Prod.fst).map fun verdict => verdict.violations.length).sum := by
    rw [violations_recordAll, List.map_map]
    exact Nat.zero_add _
  constructor
  case requests => exact requests
  case violations => exact violations
  case total =>
    rw [requestTotal_recordAll, List.length_map]
    exact Nat.zero_add _
  case observed =>
    rw [observations_recordAll, List.length_map]
    exact Nat.zero_add _
  case distinct =>
    have keys := nodup_keys_recordAll {} history List.nodup_nil
    have labels : ((recordAll {} history).requests.map Prod.fst).map Outcome.labels =
        (recordAll {} history).requests.map fun entry => entry.1.labels := List.map_map
    exact labels ▸ keys.map Outcome.labels_injective
  case labelled =>
    intro entry member
    rcases (mem_keys_recordAll {} history entry.1).mp (List.mem_map_of_mem member) with
      before | ⟨recorded, among, same⟩
    · cases before
    · exact same ▸ (made recorded among).coherent.labels_mem
  case notAcceptable_le =>
    rw [requests, violations]
    exact Verdict.count_notAcceptable_le coherent
  case violations_eq_zero_iff =>
    rw [requests, violations]
    exact Verdict.violations_sum_eq_zero_iff coherent

/-- The order in which verdicts are recorded leaves no trace. -/
theorem sameCounters_of_perm {history reordered : List (Verdict × Float)}
    (permuted : history.Perm reordered) :
    (recordAll {} history).SameCounters (recordAll {} reordered) where
  present := by
    intro outcome
    rw [mem_keys_recordAll, mem_keys_recordAll]
    simp only [permuted.mem_iff]
  requests := by
    intro outcome
    rw [requestsWith_recordAll, requestsWith_recordAll, (permuted.map _).count_eq]
  violations := by
    rw [violations_recordAll, violations_recordAll, (permuted.map _).sum_nat]
  observed := by
    rw [observations_recordAll, observations_recordAll, permuted.length_eq]
  buckets := by
    rw [buckets_recordAll, buckets_recordAll]
    -- Not a sum as the others: what counts is that two observations may change places.
    exact permuted.foldl_eq' (fun first _ second _ buckets =>
      Histogram.countIn_comm second.2 first.2 buckets) _

end Metrics

namespace Webhook

/-- What is recorded in the metrics: what became of an HTTP request, given what the policy source
answers at that time, or a verdict without a request. Either takes so many seconds. -/
inductive Step where
  | receive (request : Http.Request) (source : PolicySource) (seconds : Float)
  | record (verdict : Verdict) (made : verdict.Made) (seconds : Float)

variable (config : GatewayConfig)

def Step.apply (health : Health) : Step → Health
  | .receive request source seconds => (handle ⟨config, source⟩ seconds health request).health
  | .record verdict _ seconds =>
      { health with metrics := health.metrics.record verdict seconds }

/-- The verdict that is decided in a step; a request that is turned away has none. -/
def Step.decided? : Step → Option (Verdict × Float)
  | .receive request source seconds =>
      (extract request).toOption.map fun admission =>
        ((Gateway.review ⟨config, source⟩ admission).verdict, seconds)
  | .record verdict _ seconds => some (verdict, seconds)

/-- The health behind a run that starts afresh. -/
def run (steps : List Step) : Health :=
  steps.foldl (Step.apply config) {}

def verdicts (steps : List Step) : List Verdict :=
  (steps.filterMap (Step.decided? config)).map Prod.fst

theorem Step.decided?_made {step : Step} {entry : Verdict × Float}
    (decided : step.decided? config = some entry) : entry.1.Made := by
  cases step with
  | receive request source seconds =>
      obtain ⟨admission, _, rfl⟩ := Option.map_eq_some_iff.mp decided
      exact Gateway.review_made ⟨config, source⟩ admission
  | record verdict made seconds =>
      cases decided
      exact made

/-- A step records the verdict that is decided in it, once. -/
theorem Step.metrics_apply (health : Health) (step : Step) :
    (step.apply config health).metrics =
      Metrics.recordAll health.metrics (step.decided? config).toList := by
  cases step with
  | receive request source seconds =>
      simp only [Step.apply, Step.decided?, handle]
      cases extract request with
      | error rejection => rfl
      | ok admission => rfl
  | record verdict made seconds => rfl

theorem metrics_run (steps : List Step) :
    (run config steps).metrics = Metrics.recordAll {} (steps.filterMap (Step.decided? config)) := by
  -- Only the whole run starts afresh; what is left of it may start from any health.
  have fromAnywhere : ∀ health : Health, (steps.foldl (Step.apply config) health).metrics =
      Metrics.recordAll health.metrics (steps.filterMap (Step.decided? config)) := by
    induction steps with
    | nil => exact fun _ => rfl
    | cons head tail inductionHypothesis =>
        intro health
        rw [List.foldl_cons, inductionHypothesis, Step.metrics_apply, List.filterMap_cons]
        cases head.decided? config with
        | none => rfl
        | some entry => rfl
  exact fromAnywhere {}

/-- After every run the metrics count its verdicts, and any other order of its steps leads to the
same counters. -/
theorem run_counts (config : GatewayConfig) (steps : List Step) :
    (run config steps).metrics.Counts (verdicts config steps) ∧
      ∀ reordered, steps.Perm reordered →
        (run config steps).metrics.SameCounters (run config reordered).metrics := by
  constructor
  · rw [metrics_run]
    apply Metrics.counts_recordAll
    intro entry member
    obtain ⟨step, _, decided⟩ := List.mem_filterMap.mp member
    exact Step.decided?_made config decided
  · intro reordered permuted
    rw [metrics_run, metrics_run]
    exact Metrics.sameCounters_of_perm (permuted.filterMap _)

/-! ### A run of every kind of step -/

/-- A Deployment of one replica. -/
def systemDeployment : Json :=
  .obj [("spec", .obj [("replicas", .int 1)])]

/-- Three replicas are asked for in `kube-system`. -/
def systemSource : PolicySource :=
  .fixed [{
    metadata := { name := some "replicas", home := some "kube-system" }
    spec := { replicas := some { minimum := 3 } } }]

/-- No namespace is let pass. -/
def watchfulConfig : GatewayConfig :=
  .ofNames [] .matchAll

/-- That Deployment is sent for review. -/
def systemStep : Step :=
  .receive (systemRequest systemDeployment) systemSource 0.75

theorem sends_systemDeployment :
    Sends (systemRequest systemDeployment) systemEnvelope (.written systemDeployment) := by
  refine sends_systemReview (.obj (by decide) ?_) (by decide +kernel)
  rw [List.forall_mem_singleton]
  refine .obj (by decide) ?_
  rw [List.forall_mem_singleton]
  exact .int (by decide)

/-- The request as it is read: the Deployment is a manifest of unknown type. -/
def systemReviewed : Admission.Request :=
  { systemAdmission with
    types := ⟨"admission.k8s.io/v1", "AdmissionReview"⟩
    object := some { rest := [("spec", .obj [("replicas", .int 1)])] } }

theorem extract_systemDeployment :
    extract (systemRequest systemDeployment) = .ok systemReviewed := by
  have read : Decode.optional Manifest.decode .text (.written systemDeployment) =
      .ok systemReviewed.object := by cbv
  exact sends_systemDeployment.extract_eq_ok wellFormed_systemEnvelope read

theorem verdict_systemReviewed :
    (Gateway.review ⟨watchfulConfig, systemSource⟩ systemReviewed).verdict =
      .ofViolations [.invalid ReplicasRule.field "1" "should be at least 3"] := by
  cbv

/-- The request is reviewed, and denied for one violation. -/
theorem decided?_systemStep :
    systemStep.decided? watchfulConfig =
      some (.ofViolations [.invalid ReplicasRule.field "1" "should be at least 3"], 0.75) := by
  rw [systemStep, Step.decided?, extract_systemDeployment]
  exact congrArg (fun verdict => some (verdict, 0.75)) verdict_systemReviewed

/-- A request that is sent to where no reviews are read. -/
def strayStep : Step :=
  .receive ⟨"POST", { path := "/elsewhere" }, none, ""⟩ (.fixed []) 1

theorem decided?_strayStep : strayStep.decided? watchfulConfig = none := by
  rw [strayStep, Step.decided?, extract, if_pos (by decide)]
  rfl

/-- A request that is admitted, one that violates its policy twice, one that is turned away, one
that is sent for review and violates its policy, and one that could not be decided. -/
def mixedRun : List Step := [
  .record .allow .allow 0.25,
  .record _ (.ofViolations [.required .spec, .required (.child .spec "replicas")]) 0.5,
  strayStep,
  systemStep,
  .record _ (.ofFault (.server "closed")) 0.125]

theorem verdicts_mixedRun : verdicts watchfulConfig mixedRun = [
    .allow,
    .ofViolations [.required .spec, .required (.child .spec "replicas")],
    .ofViolations [.invalid ReplicasRule.field "1" "should be at least 3"],
    .ofFault (.server "closed")] := by
  have recorded (verdict : Verdict) (made : verdict.Made) (seconds : Float) :
      (Step.record verdict made seconds).decided? watchfulConfig = some (verdict, seconds) := rfl
  rw [verdicts, mixedRun, List.filterMap_cons_some (recorded ..),
    List.filterMap_cons_some (recorded ..), List.filterMap_cons_none decided?_strayStep,
    List.filterMap_cons_some decided?_systemStep, List.filterMap_cons_some (recorded ..)]
  rfl

theorem run_counts_mixed :
    mixedRun.Perm mixedRun.reverse ∧
      (run watchfulConfig mixedRun).metrics.Counts (verdicts watchfulConfig mixedRun) ∧
      (run watchfulConfig mixedRun).metrics.SameCounters
        (run watchfulConfig mixedRun.reverse).metrics ∧
      (verdicts watchfulConfig mixedRun).length = 4 ∧
      (run watchfulConfig mixedRun).metrics.violations = 3 := by
  have reordered : mixedRun.Perm mixedRun.reverse := mixedRun.reverse_perm.symm
  have counted := run_counts watchfulConfig mixedRun
  refine ⟨reordered, counted.1, counted.2 _ reordered, ?_, ?_⟩
  · rw [verdicts_mixedRun]
    rfl
  · rw [counted.1.violations, verdicts_mixedRun]
    rfl

end Webhook

end AvailabilityGate
