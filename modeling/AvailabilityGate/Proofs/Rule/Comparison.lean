import AvailabilityGate.Proofs.Rule.Independence
import Mathlib.Data.List.Basic

/-!
Owns the comparisons of the strategy rule: three limits of a policy, each held against a bound of the
Deployment, and what each of them adds to the report.

Main statement: in a rolling update the rule finds what the three comparisons find, in their order.
Each of them depends on its own two sides and on nothing else, although two share the resolved surge
and a surge that does not resolve ends both.
-/

namespace AvailabilityGate

/-- A rolling update as it is judged: the bounds of a Deployment with so many replicas, and the
limits of the policy. -/
structure Rollout where
  replicas : Int32
  bounds : RollingUpdate
  limits : RollingUpdateRule
deriving DecidableEq

/-- One limit of the policy, held against a bound of the Deployment. -/
inductive Comparison where
  | leastSurge
  | mostSurge
  | mostUnavailable
deriving DecidableEq, Repr

namespace Comparison

/-- The comparisons in the order of their findings. -/
def inOrder : List Comparison :=
  [.leastSurge, .mostSurge, .mostUnavailable]

/-- The limit, where the policy sets one. -/
def limit? (limits : RollingUpdateRule) : Comparison → Option Bound
  | .leastSurge => limits.minSurge
  | .mostSurge => limits.maxSurge
  | .mostUnavailable => limits.maxUnavailable

/-- The bound of the Deployment; one that it leaves open counts as a quarter. -/
def observed (bounds : RollingUpdate) : Comparison → Bound
  | .leastSurge => bounds.maxSurge.getD (.text "25%")
  | .mostSurge => bounds.maxSurge.getD (.text "25%")
  | .mostUnavailable => bounds.maxUnavailable.getD (.text "25%")

/-- The field of the Deployment that holds the bound. -/
def field : Comparison → FieldPath
  | .leastSurge => ⟨["spec", "strategy", "rollingUpdate", "maxSurge"]⟩
  | .mostSurge => ⟨["spec", "strategy", "rollingUpdate", "maxSurge"]⟩
  | .mostUnavailable => ⟨["spec", "strategy", "rollingUpdate", "maxUnavailable"]⟩

/-- So many pods are on the right side of the limit. -/
def Holds (seen allowed : Int32) : Comparison → Prop
  | .leastSurge => allowed ≤ seen
  | .mostSurge => seen ≤ allowed
  | .mostUnavailable => seen ≤ allowed

instance (comparison : Comparison) (seen allowed : Int32) :
    Decidable (comparison.Holds seen allowed) := by
  unfold Holds
  cases comparison <;> infer_instance

def demand (limit : Bound) : Comparison → String
  | .leastSurge => "should be at least " ++ limit.display
  | .mostSurge => "should be at most " ++ limit.display
  | .mostUnavailable => "should be at most " ++ limit.display

/-- What is found where a bound is on the wrong side of the limit: both as they were written. -/
def violation (comparison : Comparison) (bound limit : Bound) : Violation :=
  .invalid comparison.field bound.display (comparison.demand limit)

/-- The comparison is made: the policy sets a limit, and both sides stand for numbers of pods, with
percentages rounded up. -/
structure Compares (comparison : Comparison) (rollout : Rollout) (limit : Bound)
    (seen allowed : Int32) : Prop where
  isSet : comparison.limit? rollout.limits = some limit
  observed : (comparison.observed rollout.bounds).resolve .up rollout.replicas = .ok seen
  limit : limit.resolve .up rollout.replicas = .ok allowed

/-- The comparison is made and fails. -/
def Finds (comparison : Comparison) (rollout : Rollout) (violation : Violation) : Prop :=
  ∃ limit seen allowed, comparison.Compares rollout limit seen allowed ∧
    ¬ comparison.Holds seen allowed ∧
    violation = comparison.violation (comparison.observed rollout.bounds) limit

/-! ### What a comparison adds to the report -/

section Outcome

variable (comparison : Comparison) (replicas : Int32) (bound limit : Bound)

/-- What is found when a bound is held against a limit; nothing, unless both resolve. -/
def compare? : Option Violation :=
  match bound.resolve .up replicas, limit.resolve .up replicas with
  | .ok seen, .ok allowed =>
      if comparison.Holds seen allowed then none else some (comparison.violation bound limit)
  | _, _ => none

/-- The warning for a bound, unless it resolves. -/
def warning? : Option LogEvent :=
  match bound.resolve .up replicas with
  | .ok _ => none
  | .error fault => some (StrategyRule.skipped comparison.field fault)

/-- A violation if the comparison fails, and a warning for each side that does not resolve. -/
def outcome : Report where
  violations := (comparison.compare? replicas bound limit).toList
  log := (comparison.warning? replicas bound).toList ++ (comparison.warning? replicas limit).toList

variable {comparison replicas bound limit} {seen allowed : Int32} {fault other : BoundFault}

theorem outcome_of_ok (seenIs : bound.resolve .up replicas = .ok seen)
    (allowedIs : limit.resolve .up replicas = .ok allowed) :
    comparison.outcome replicas bound limit =
      if comparison.Holds seen allowed then {}
      else { violations := [comparison.violation bound limit] } := by
  unfold outcome compare? warning?
  rw [seenIs, allowedIs]
  by_cases holds : comparison.Holds seen allowed
  · simp only [if_pos holds]
    rfl
  · simp only [if_neg holds]
    rfl

theorem outcome_of_limit_error (seenIs : bound.resolve .up replicas = .ok seen)
    (fails : limit.resolve .up replicas = .error fault) :
    comparison.outcome replicas bound limit =
      { log := [StrategyRule.skipped comparison.field fault] } := by
  unfold outcome compare? warning?
  rw [seenIs, fails]
  rfl

theorem outcome_of_bound_error (fails : bound.resolve .up replicas = .error fault)
    (allowedIs : limit.resolve .up replicas = .ok allowed) :
    comparison.outcome replicas bound limit =
      { log := [StrategyRule.skipped comparison.field fault] } := by
  unfold outcome compare? warning?
  rw [fails, allowedIs]
  rfl

theorem outcome_of_errors (fails : bound.resolve .up replicas = .error fault)
    (limitFails : limit.resolve .up replicas = .error other) :
    comparison.outcome replicas bound limit =
      { log := [StrategyRule.skipped comparison.field fault,
          StrategyRule.skipped comparison.field other] } := by
  unfold outcome compare? warning?
  rw [fails, limitFails]
  rfl

end Outcome

/-- What a comparison adds to the report on a rolling update, nothing without a limit. -/
def share (comparison : Comparison) (rollout : Rollout) : Report :=
  (comparison.limit? rollout.limits).elim {}
    (comparison.outcome rollout.replicas (comparison.observed rollout.bounds))

/-- What a comparison finds in a rolling update. -/
def finding? (rollout : Rollout) (comparison : Comparison) : Option Violation := do
  let limit ← comparison.limit? rollout.limits
  comparison.compare? rollout.replicas (comparison.observed rollout.bounds) limit

variable {comparison : Comparison} {rollout : Rollout} {violation : Violation}

theorem compare?_eq_some_iff {replicas : Int32} {bound limit : Bound} :
    comparison.compare? replicas bound limit = some violation ↔
      ∃ seen allowed, bound.resolve .up replicas = .ok seen ∧
        limit.resolve .up replicas = .ok allowed ∧ ¬ comparison.Holds seen allowed ∧
        violation = comparison.violation bound limit := by
  unfold compare?
  cases bound.resolve .up replicas with
  | error fault => simp
  | ok seen =>
      cases limit.resolve .up replicas with
      | error fault => simp
      | ok allowed => simp [eq_comm]

theorem finding?_eq_some_iff :
    comparison.finding? rollout = some violation ↔ comparison.Finds rollout violation := by
  unfold finding? Finds
  rw [Option.bind_eq_bind, Option.bind_eq_some_iff]
  simp only [compare?_eq_some_iff]
  constructor
  · intro found
    obtain ⟨limit, isSet, seen, allowed, seenIs, allowedIs, breaks, same⟩ := found
    exact ⟨limit, seen, allowed, ⟨isSet, seenIs, allowedIs⟩, breaks, same⟩
  · intro found
    obtain ⟨limit, seen, allowed, compares, breaks, same⟩ := found
    exact ⟨limit, compares.isSet, seen, allowed, compares.observed, compares.limit, breaks, same⟩

theorem share_violations :
    (comparison.share rollout).violations = (comparison.finding? rollout).toList := by
  unfold share finding?
  cases comparison.limit? rollout.limits <;> rfl

/-- A bound that does not resolve is not found to be wrong. -/
theorem finding?_of_error {fault : BoundFault}
    (fails : (comparison.observed rollout.bounds).resolve .up rollout.replicas = .error fault) :
    comparison.finding? rollout = none := by
  unfold finding? compare?
  rw [fails]
  cases comparison.limit? rollout.limits <;> rfl

end Comparison

/-! ### The checks of the rule -/

namespace StrategyRule

open Comparison Report

section Checks

variable {replicas surge : Int32} {observed limit : Bound} {fault : BoundFault}

/-- The two checks of the surge differ only in the side of the limit that is wrong. -/
theorem resolveAt_then_eq (comparison : Comparison)
    (resolves : observed.resolve .up replicas = .ok surge) {fails : Int32 → Prop}
    [DecidablePred fails] (breaks : ∀ allowed, fails allowed ↔ ¬ comparison.Holds surge allowed)
    (report : Report) :
    (match resolveAt comparison.field replicas limit report with
      | (none, report) => report
      | (some allowed, report) =>
          if fails allowed then report.add (comparison.violation observed limit) else report) =
      report ++ comparison.outcome replicas observed limit := by
  cases resolved : limit.resolve .up replicas with
  | error fault =>
      rw [resolveAt_of_error resolved, outcome_of_limit_error resolves resolved]
      exact report.note_eq _
  | ok allowed =>
      rw [resolveAt_of_ok resolved, outcome_of_ok resolves resolved]
      by_cases holds : comparison.Holds surge allowed
      · simp only [breaks, holds, not_true_eq_false, if_false, if_true]
        exact append_empty.symm
      · simp only [breaks, holds, not_false_eq_true, if_true, if_false]
        exact report.add_eq _

theorem checkMinSurge_eq (resolves : observed.resolve .up replicas = .ok surge) (report : Report) :
    checkMinSurge replicas surge observed limit report =
      report ++ leastSurge.outcome replicas observed limit :=
  resolveAt_then_eq leastSurge resolves (fun _ => Int32.not_le.symm) report

theorem checkMaxSurge_eq (resolves : observed.resolve .up replicas = .ok surge) (report : Report) :
    checkMaxSurge replicas surge observed limit report =
      report ++ mostSurge.outcome replicas observed limit :=
  resolveAt_then_eq mostSurge resolves (fun _ => Int32.not_le.symm) report

theorem checkUnavailable_eq (report : Report) :
    checkUnavailable replicas observed limit report =
      report ++ mostUnavailable.outcome replicas observed limit := by
  rw [checkUnavailable_onlyAppends report]
  unfold checkUnavailable
  cases observedResolved : observed.resolve .up replicas with
  | error fault =>
      rw [resolveAt_of_error observedResolved]
      cases limitResolved : limit.resolve .up replicas with
      | error other =>
          rw [outcome_of_errors observedResolved limitResolved]
          simp only [resolveAt_of_error limitResolved]
          rfl
      | ok most =>
          rw [outcome_of_bound_error observedResolved limitResolved]
          simp only [resolveAt_of_ok limitResolved]
          rfl
  | ok unavailable =>
      rw [resolveAt_of_ok observedResolved]
      cases limitResolved : limit.resolve .up replicas with
      | error fault =>
          rw [outcome_of_limit_error observedResolved limitResolved]
          simp only [resolveAt_of_error limitResolved]
          rfl
      | ok most =>
          rw [outcome_of_ok observedResolved limitResolved]
          simp only [resolveAt_of_ok limitResolved, Holds, ← Int32.not_lt, ite_not]
          rfl

theorem whenSet_eq {check : Bound → Report → Report} {found : Bound → Report}
    (checkIs : ∀ bound report, check bound report = report ++ found bound) (limit : Option Bound)
    (report : Report) : whenSet limit check report = report ++ limit.elim {} found := by
  cases limit with
  | none => exact append_empty.symm
  | some bound => exact checkIs bound report

end Checks

variable {rollout : Rollout} {surge : Int32} {fault : BoundFault}

/-- The surge resolves: all three comparisons have their share in the report. -/
theorem checkBounds_of_ok
    (resolves : (leastSurge.observed rollout.bounds).resolve .up rollout.replicas = .ok surge)
    (report : Report) :
    checkBounds rollout.limits rollout.replicas rollout.bounds report =
      report ++ leastSurge.share rollout ++ mostSurge.share rollout ++
        mostUnavailable.share rollout := by
  unfold checkBounds checkSurge
  rw [whenSet_eq fun _ => checkUnavailable_eq]
  change (rollout.bounds.maxSurge.getD defaultBound).resolve .up rollout.replicas = .ok surge
    at resolves
  rw [resolveAt_of_ok resolves]
  simp only [whenSet_eq fun _ => checkMinSurge_eq resolves,
    whenSet_eq fun _ => checkMaxSurge_eq resolves]
  rfl

/-- The surge does not resolve: this is noted once, and neither of its limits is looked at. -/
theorem checkBounds_of_error
    (fails : (leastSurge.observed rollout.bounds).resolve .up rollout.replicas = .error fault)
    (report : Report) :
    checkBounds rollout.limits rollout.replicas rollout.bounds report =
      report ++ { log := [skipped leastSurge.field fault] } ++ mostUnavailable.share rollout := by
  unfold checkBounds checkSurge
  rw [whenSet_eq fun _ => checkUnavailable_eq]
  change (rollout.bounds.maxSurge.getD defaultBound).resolve .up rollout.replicas = .error fault
    at fails
  rw [resolveAt_of_error fails]
  rw [note_eq]
  rfl

theorem checkBounds_violations (rollout : Rollout) (report : Report) :
    (checkBounds rollout.limits rollout.replicas rollout.bounds report).violations =
      report.violations ++ inOrder.filterMap (finding? rollout) := by
  have inOrderIs : inOrder.filterMap (finding? rollout) = (leastSurge.finding? rollout).toList ++
      (mostSurge.finding? rollout).toList ++ (mostUnavailable.finding? rollout).toList := by
    rw [List.filterMap_eq_flatMap_toList]
    simp [inOrder]
  cases surgeIs : (leastSurge.observed rollout.bounds).resolve .up rollout.replicas with
  | error fault =>
      have mostSilent : mostSurge.finding? rollout = none := finding?_of_error surgeIs
      rw [checkBounds_of_error surgeIs, inOrderIs, finding?_of_error surgeIs, mostSilent]
      simp only [violations_append, share_violations]
      simp
  | ok surge =>
      rw [checkBounds_of_ok surgeIs, inOrderIs]
      simp only [violations_append, share_violations, List.append_assoc]

end StrategyRule

end AvailabilityGate
