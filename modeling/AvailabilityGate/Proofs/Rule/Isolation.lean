import AvailabilityGate.Proofs.Bound.Percentage
import AvailabilityGate.Proofs.Rule.Replicas

/-!
Owns bounds that are neither counts nor percentages. Such a bound takes part in no comparison, and
takes nothing with it but the comparisons that it is an operand of.

Main statement: the violations are those without the limits that such a bound would be held against,
each comparison that a policy asks for and that is not made is accounted for by a warning, and each
warning is about such a bound.
-/

namespace AvailabilityGate

/-! ### Bounds that do not resolve -/

namespace Bound

/-- Stands for no number of pods, whatever a percentage is taken of. -/
def Unresolvable (bound : Bound) : Prop :=
  ∀ rounding total, ∃ fault, bound.resolve rounding total = .error fault

variable {bound : Bound} {rounding : Rounding} {total : Int32} {fault : BoundFault}

theorem unresolvable_text {written : String} (unread : Percentage.parse? written = none) :
    (text written).Unresolvable :=
  fun rounding total => ⟨_, resolve_text_of_unread unread rounding total⟩

/-- What fails once fails always, and with the text of the bound. -/
theorem unresolvable_of_error (fails : bound.resolve rounding total = .error fault) :
    bound.Unresolvable ∧ ∃ written, bound = .text written ∧ fault = .notPercentage written := by
  cases bound with
  | count value => cases fails
  | text written =>
      cases read : Percentage.parse? written with
      | none =>
          rw [resolve_text_of_unread read] at fails
          exact ⟨unresolvable_text read, written, rfl, (Except.error.inj fails).symm⟩
      | some percent =>
          simp only [resolve, read] at fails
          cases fails

end Bound

namespace Comparison

open StrategyRule

/-- One of the two sides of a comparison. -/
def Operand (comparison : Comparison) (rollout : Rollout) (bound : Bound) : Prop :=
  bound = comparison.observed rollout.bounds ∨ comparison.limit? rollout.limits = some bound

/-- A warning that names the field of the comparison and quotes a side of it that does not
resolve. -/
structure Warns (comparison : Comparison) (rollout : Rollout) (event : LogEvent) : Prop where
  level : event.level = .warn
  quotes : ∃ written, comparison.Operand rollout (.text written) ∧
    (Bound.text written).Unresolvable ∧
    event.fields = [("field", comparison.field.render),
      ("error", "invalid value for IntOrString: " ++ Text.quoted written ++
        " is not a percentage")]

variable {comparison other : Comparison} {rollout : Rollout} {bound limit : Bound}
  {fault : BoundFault} {event : LogEvent} {seen allowed : Int32}

theorem Compares.resolvable (compares : comparison.Compares rollout limit seen allowed)
    (operand : comparison.Operand rollout bound) : ¬ bound.Unresolvable := by
  intro unresolvable
  obtain ⟨fault, fails⟩ := unresolvable .up rollout.replicas
  cases operand with
  | inl isObserved =>
      rw [isObserved, compares.observed] at fails
      cases fails
  | inr isLimit =>
      have sameLimit : limit = bound := Option.some.inj (compares.isSet.symm.trans isLimit)
      rw [← sameLimit, compares.limit] at fails
      cases fails

theorem finding?_eq_none_of_operand (operand : comparison.Operand rollout bound)
    (unresolvable : bound.Unresolvable) : comparison.finding? rollout = none := by
  apply Option.eq_none_iff_forall_ne_some.mpr
  intro violation found
  obtain ⟨_, _, _, compares, _, _⟩ := finding?_eq_some_iff.mp found
  exact compares.resolvable operand unresolvable

/-! ### Policies without a limit -/

end Comparison

/-- The limits without that of one comparison. -/
def RollingUpdateRule.without (limits : RollingUpdateRule) : Comparison → RollingUpdateRule
  | .leastSurge => { limits with minSurge := none }
  | .mostSurge => { limits with maxSurge := none }
  | .mostUnavailable => { limits with maxUnavailable := none }

def Rollout.without (rollout : Rollout) (comparison : Comparison) : Rollout :=
  { rollout with limits := rollout.limits.without comparison }

def StrategyRule.without (rule : StrategyRule) (comparison : Comparison) : StrategyRule :=
  { rule with rollingUpdate := rule.rollingUpdate.map (·.without comparison) }

namespace PolicySpec

/-- The policy without the limit of one comparison. -/
def without (spec : PolicySpec) (comparison : Comparison) : PolicySpec :=
  { spec with strategy := spec.strategy.map (·.without comparison) }

/-- The limit that the policy sets for a comparison. -/
def limit? (spec : PolicySpec) (comparison : Comparison) : Option Bound := do
  let rule ← spec.strategy
  let limits ← rule.rollingUpdate
  comparison.limit? limits

/-- Validation comes to the comparisons, and this is the rolling update that it judges. -/
def Judges (spec : PolicySpec) (deployment : Deployment) (rollout : Rollout) : Prop :=
  ∃ rule, spec.strategy = some rule ∧ rule.Judges deployment rollout

end PolicySpec

namespace Comparison

variable {comparison other : Comparison} {rollout : Rollout}

theorem limit?_without (limits : RollingUpdateRule) :
    other.limit? (limits.without comparison) =
      if other = comparison then none else other.limit? limits := by
  cases comparison <;> cases other <;> rfl

/-- A comparison that finds nothing can be left out, and the others find what they found. -/
theorem finding?_without (silent : comparison.finding? rollout = none) (other : Comparison) :
    other.finding? (rollout.without comparison) = other.finding? rollout := by
  by_cases same : other = comparison
  · subst same
    rw [silent]
    unfold finding? Rollout.without
    rw [limit?_without, if_pos rfl]
    rfl
  · unfold finding? Rollout.without
    rw [limit?_without, if_neg same]

end Comparison

namespace StrategyRule

open Comparison Report

variable {rule : StrategyRule} {deployment : Deployment} {rollout : Rollout}
  {comparison : Comparison}

theorem Judges.without (judges : rule.Judges deployment rollout) (comparison : Comparison) :
    (rule.without comparison).Judges deployment (rollout.without comparison) where
  sameType := judges.sameType
  rolling := judges.rolling
  bounds := judges.bounds
  replicas := judges.replicas
  limits := by
    show rule.rollingUpdate.map _ = _
    rw [judges.limits]
    rfl

/-- Without a limit that plays no part the rule decides the same. -/
theorem Decides.without {found : List Violation} (decides : rule.Decides deployment found)
    (silent : ∀ rollout, rule.Judges deployment rollout → comparison.finding? rollout = none) :
    (rule.without comparison).Decides deployment found := by
  cases decides with
  | otherType differs => exact .otherType differs
  | notRolling same other => exact .notRolling same other
  | noRollingUpdate same rolling absent => exact .noRollingUpdate same rolling absent
  | nothingToCompare same rolling present absent =>
      refine .nothingToCompare same rolling present (absent.imp_right fun noLimits => ?_)
      show rule.rollingUpdate.map _ = none
      rw [noLimits]
      rfl
  | compared judges finds =>
      refine .compared (judges.without comparison) fun other violation => ?_
      rw [finds, ← finding?_eq_some_iff, ← finding?_eq_some_iff,
        finding?_without (silent _ judges)]

/-! ### The log of the comparisons -/

section Log

variable {bound limit : Bound} {fault : BoundFault} {event : LogEvent} {seen : Int32}

theorem warns_skipped (operand : comparison.Operand rollout bound)
    (fails : bound.resolve .up rollout.replicas = .error fault) :
    comparison.Warns rollout (skipped comparison.field fault) := by
  obtain ⟨unresolvable, written, rfl, rfl⟩ := Bound.unresolvable_of_error fails
  exact ⟨rfl, written, operand, unresolvable, rfl⟩

/-- The warnings of a comparison are those of its two sides. -/
theorem mem_share_log_iff :
    event ∈ (comparison.share rollout).log ↔
      comparison.limit? rollout.limits ≠ none ∧
        ∃ bound fault, comparison.Operand rollout bound ∧
          bound.resolve .up rollout.replicas = .error fault ∧
          event = skipped comparison.field fault := by
  have warned : ∀ bound, comparison.warning? rollout.replicas bound = some event ↔
      ∃ fault, bound.resolve .up rollout.replicas = .error fault ∧
        event = skipped comparison.field fault := by
    intro bound
    unfold warning?
    cases bound.resolve .up rollout.replicas <;> simp [eq_comm]
  unfold share Operand
  cases comparison.limit? rollout.limits with
  | none => simp
  | some limit => simp [outcome, warned, or_and_right, exists_or]

/-- The log of the last comparison is part of the log whether or not the surge resolves. -/
theorem mem_log_of_mostUnavailable (logged : event ∈ (mostUnavailable.share rollout).log) :
    event ∈ (checkBounds rollout.limits rollout.replicas rollout.bounds {}).log := by
  cases surgeIs : (leastSurge.observed rollout.bounds).resolve .up rollout.replicas with
  | error fault =>
      rw [checkBounds_of_error surgeIs, log_append]
      exact List.mem_append_right _ logged
  | ok surge =>
      rw [checkBounds_of_ok surgeIs, log_append]
      exact List.mem_append_right _ logged

theorem mem_log_of_share
    (resolves : (comparison.observed rollout.bounds).resolve .up rollout.replicas = .ok seen)
    (logged : event ∈ (comparison.share rollout).log) :
    event ∈ (checkBounds rollout.limits rollout.replicas rollout.bounds {}).log := by
  cases comparison with
  | leastSurge =>
      rw [checkBounds_of_ok resolves]
      simp [logged]
  | mostSurge =>
      have sameSurge : (leastSurge.observed rollout.bounds).resolve .up rollout.replicas =
          .ok seen := resolves
      rw [checkBounds_of_ok sameSurge]
      simp [logged]
  | mostUnavailable => exact mem_log_of_mostUnavailable logged

/-- For the surge one warning stands for both of its comparisons. -/
theorem skipped_mem_log (isSet : comparison.limit? rollout.limits = some limit)
    (fails : (comparison.observed rollout.bounds).resolve .up rollout.replicas = .error fault) :
    skipped comparison.field fault ∈
      (checkBounds rollout.limits rollout.replicas rollout.bounds {}).log := by
  cases comparison with
  | leastSurge =>
      rw [checkBounds_of_error fails]
      simp
  | mostSurge =>
      have sameSurge : (leastSurge.observed rollout.bounds).resolve .up rollout.replicas =
          .error fault := fails
      rw [checkBounds_of_error sameSurge]
      simp [Comparison.field]
  | mostUnavailable =>
      apply mem_log_of_mostUnavailable
      exact mem_share_log_iff.mpr
        ⟨by simp [isSet], _, fault, .inl rfl, fails, rfl⟩

/-- A comparison that the policy asks for is made, or there is a warning. -/
theorem exists_warning_of_not_compares (isSet : comparison.limit? rollout.limits = some limit)
    (unmade : ¬ ∃ seen allowed, comparison.Compares rollout limit seen allowed) :
    ∃ event ∈ (checkBounds rollout.limits rollout.replicas rollout.bounds {}).log,
      comparison.Warns rollout event := by
  cases seenIs : (comparison.observed rollout.bounds).resolve .up rollout.replicas with
  | error fault => exact ⟨_, skipped_mem_log isSet seenIs, warns_skipped (.inl rfl) seenIs⟩
  | ok seen =>
      cases allowedIs : limit.resolve .up rollout.replicas with
      | ok allowed => exact absurd ⟨seen, allowed, isSet, seenIs, allowedIs⟩ unmade
      | error fault =>
          have logged : skipped comparison.field fault ∈ (comparison.share rollout).log :=
            mem_share_log_iff.mpr ⟨by simp [isSet], limit, fault, .inr isSet, allowedIs, rfl⟩
          exact ⟨_, mem_log_of_share seenIs logged, warns_skipped (.inr isSet) allowedIs⟩

theorem exists_warns_of_mem_share (logged : event ∈ (comparison.share rollout).log) :
    ∃ comparison : Comparison, comparison.Warns rollout event := by
  obtain ⟨_, bound, fault, operand, fails, rfl⟩ := mem_share_log_iff.mp logged
  exact ⟨comparison, warns_skipped operand fails⟩

/-- No other events are logged. -/
theorem exists_warns_of_mem_log
    (logged : event ∈ (checkBounds rollout.limits rollout.replicas rollout.bounds {}).log) :
    ∃ comparison : Comparison, comparison.Warns rollout event := by
  cases surgeIs : (leastSurge.observed rollout.bounds).resolve .up rollout.replicas with
  | error fault =>
      rw [checkBounds_of_error surgeIs, log_append, List.mem_append] at logged
      cases logged with
      | inl ofSurge =>
          have same : event = skipped leastSurge.field fault := by simpa using ofSurge
          exact same ▸ ⟨leastSurge, warns_skipped (.inl rfl) surgeIs⟩
      | inr ofUnavailable => exact exists_warns_of_mem_share ofUnavailable
  | ok surge =>
      rw [checkBounds_of_ok surgeIs] at logged
      simp only [log_append, List.mem_append] at logged
      rcases logged with ((nothing | ofLeast) | ofMost) | ofUnavailable
      · exact absurd nothing List.not_mem_nil
      · exact exists_warns_of_mem_share ofLeast
      · exact exists_warns_of_mem_share ofMost
      · exact exists_warns_of_mem_share ofUnavailable

end Log

/-- Nothing is logged before the rule comes to its comparisons. -/
theorem exists_judges_of_mem_log {event : LogEvent} (logged : event ∈ (rule.check deployment {}).log) :
    ∃ rollout, rule.Judges deployment rollout := by
  obtain ⟨found, decides⟩ := decides_exists rule deployment
  cases decides.quiet_or_judges with
  | inl quiet =>
      rw [quiet] at logged
      exact absurd logged List.not_mem_nil
  | inr judged =>
      obtain ⟨rollout, judges, _⟩ := judged
      exact ⟨rollout, judges⟩

/-- A violation at a field that is compared was found by comparing. -/
theorem finds_of_mem {violation : Violation}
    (member : violation ∈ (rule.check deployment {}).violations)
    (place : violation.field = comparison.field) :
    ∃ rollout, rule.Judges deployment rollout ∧
      ∃ maker : Comparison, maker.Finds rollout violation := by
  cases mem_check_iff.mp member with
  | otherType differs =>
      cases comparison <;> simp [Violation.invalid, Comparison.field] at place
  | noRollingUpdate same rolling absent =>
      cases comparison <;> simp [Violation.required, Comparison.field] at place
  | compared judges finds => exact ⟨_, judges, _, finds⟩

end StrategyRule

/-! ### Validation as a whole -/

namespace PolicySpec

open Report

variable {spec : PolicySpec} {deployment : Deployment} {comparison : Comparison}

/-- The rules on replicas and resources log nothing. -/
theorem validate_log (spec : PolicySpec) (deployment : Deployment) :
    (spec.validate deployment).log = (spec.checkStrategy deployment {}).log := by
  obtain ⟨ofReplicas, _, replicasAre⟩ := exists_checkReplicas_eq spec deployment
  obtain ⟨ofResources, _, resourcesAre⟩ := exists_checkResources_eq spec deployment
  rw [validate_eq_append]
  simp only [Section.check, replicasAre, resourcesAre, log_append, List.nil_append,
    List.append_nil]

theorem Judges.log_eq {rollout : Rollout} (judges : spec.Judges deployment rollout) :
    (spec.validate deployment).log =
      (StrategyRule.checkBounds rollout.limits rollout.replicas rollout.bounds {}).log := by
  obtain ⟨rule, strategyIs, ruleJudges⟩ := judges
  rw [validate_log]
  unfold checkStrategy
  rw [strategyIs]
  exact congrArg Report.log (ruleJudges.check_eq {})

theorem exists_judges_of_mem_log {event : LogEvent}
    (logged : event ∈ (spec.validate deployment).log) :
    ∃ rollout, spec.Judges deployment rollout := by
  rw [validate_log] at logged
  unfold checkStrategy at logged
  cases strategyIs : spec.strategy with
  | none =>
      rw [strategyIs] at logged
      exact absurd logged List.not_mem_nil
  | some rule =>
      rw [strategyIs] at logged
      obtain ⟨rollout, judges⟩ := StrategyRule.exists_judges_of_mem_log logged
      exact ⟨rollout, rule, strategyIs, judges⟩

/-- The other rules report at fields of their own. -/
theorem finds_of_mem {violation : Violation}
    (member : violation ∈ (spec.validate deployment).violations)
    (place : violation.field = comparison.field) :
    ∃ rollout, spec.Judges deployment rollout ∧
      ∃ maker : Comparison, maker.Finds rollout violation := by
  rcases mem_validate_iff.mp member with ⟨rule, isSet, found⟩ | ⟨rule, isSet, found⟩ | ⟨rule, isSet, found⟩
  · rw [ReplicasRule.field_of_finding? (ReplicasRule.mem_check_iff.mp found)] at place
    cases comparison <;> exact absurd place (by decide)
  · obtain ⟨rollout, judges, finds⟩ := StrategyRule.finds_of_mem found place
    exact ⟨rollout, ⟨rule, isSet, judges⟩, finds⟩
  · obtain ⟨container, _, kind, resource, _, _, rfl⟩ := ResourcesRule.mem_check_iff.mp found
    have short : comparison.field.segments.length < 8 := by cases comparison <;> decide
    exact absurd place.symm (ResourceKind.ne_field_of_short short kind container resource)

/-- What a comparison finds is among the violations, whatever comes of the other comparisons. -/
theorem Judges.mem_violations {rollout : Rollout} {violation : Violation}
    (judges : spec.Judges deployment rollout) (finds : comparison.Finds rollout violation) :
    violation ∈ (spec.validate deployment).violations := by
  obtain ⟨rule, isSet, ruleJudges⟩ := judges
  have found : violation ∈ (rule.check deployment {}).violations :=
    StrategyRule.mem_check_iff.mpr (.compared ruleJudges finds)
  exact mem_validate_iff.mpr (.inr (.inl ⟨rule, isSet, found⟩))

/-- Without a limit that plays no part validation finds the same. -/
theorem validate_without_violations
    (silent : ∀ rollout, spec.Judges deployment rollout → comparison.finding? rollout = none) :
    ((spec.without comparison).validate deployment).violations =
      (spec.validate deployment).violations := by
  have ofStrategy : ((spec.without comparison).checkStrategy deployment {}).violations =
      (spec.checkStrategy deployment {}).violations := by
    unfold checkStrategy without
    cases strategyIs : spec.strategy with
    | none => rfl
    | some rule =>
        obtain ⟨found, decides⟩ := StrategyRule.decides_exists rule deployment
        have decidesWithout : (rule.without comparison).Decides deployment found :=
          decides.without fun rollout judges => silent rollout ⟨rule, strategyIs, judges⟩
        exact (decidesWithout.violations {}).trans (decides.violations {}).symm
  rw [validate_eq_append, validate_eq_append]
  simp only [violations_append, Section.check, ofStrategy]
  rfl

/-- Whatever the policy, nothing is found through a bound of the Deployment that does not
resolve. -/
theorem silent_of_observed {bounds : RollingUpdate}
    (boundsAre : deployment.strategy.bind DeploymentStrategy.rollingUpdate = some bounds)
    (unresolvable : (comparison.observed bounds).Unresolvable) (spec : PolicySpec) :
    ∀ rollout, spec.Judges deployment rollout → comparison.finding? rollout = none := by
  intro rollout judges
  obtain ⟨rule, _, ruleJudges⟩ := judges
  have sameBounds : rollout.bounds = bounds :=
    Option.some.inj (ruleJudges.bounds.symm.trans boundsAre)
  rw [← sameBounds] at unresolvable
  exact Comparison.finding?_eq_none_of_operand (.inl rfl) unresolvable

/-- A bound that does not resolve takes its own comparisons out and no others: limits can be dropped
that do not resolve themselves, or that only such a bound is held against. A comparison that is asked
for is made, and then reported if it fails, or there is a warning that quotes such a bound; all
warnings do, and no violation is found through one. -/
theorem unresolvable_isolated (spec : PolicySpec) (deployment : Deployment) :
    (∀ comparison limit, spec.limit? comparison = some limit → limit.Unresolvable →
      ((spec.without comparison).validate deployment).violations =
        (spec.validate deployment).violations) ∧
    (∀ bounds, deployment.strategy.bind DeploymentStrategy.rollingUpdate = some bounds →
      (∀ surge, bounds.maxSurge = some surge → surge.Unresolvable →
        (((spec.without .leastSurge).without .mostSurge).validate deployment).violations =
          (spec.validate deployment).violations) ∧
      ∀ unavailable, bounds.maxUnavailable = some unavailable → unavailable.Unresolvable →
        ((spec.without .mostUnavailable).validate deployment).violations =
          (spec.validate deployment).violations) ∧
    (∀ rollout, spec.Judges deployment rollout →
      ∀ (comparison : Comparison) limit, comparison.limit? rollout.limits = some limit →
        (¬ ∃ seen allowed, comparison.Compares rollout limit seen allowed) →
        ∃ event ∈ (spec.validate deployment).log, comparison.Warns rollout event) ∧
    (∀ rollout, spec.Judges deployment rollout →
      ∀ (comparison : Comparison) violation, comparison.Finds rollout violation →
        violation ∈ (spec.validate deployment).violations) ∧
    (∀ event ∈ (spec.validate deployment).log, event.level = .warn →
      ∃ rollout, spec.Judges deployment rollout ∧
        ∃ comparison : Comparison, comparison.Warns rollout event) ∧
    (∀ violation ∈ (spec.validate deployment).violations,
      ∀ comparison : Comparison, violation.field = comparison.field →
        ∃ rollout, spec.Judges deployment rollout ∧
          ∃ maker : Comparison, maker.Finds rollout violation ∧
            ∀ bound, maker.Operand rollout bound → ¬ bound.Unresolvable) := by
  refine ⟨?_, ?_, ?_, fun _ judges _ _ => judges.mem_violations, ?_, ?_⟩
  · intro comparison limit isSet unresolvable
    apply validate_without_violations
    intro rollout judges
    obtain ⟨rule, strategyIs, ruleJudges⟩ := judges
    have limitIs : comparison.limit? rollout.limits = some limit := by
      unfold limit? at isSet
      rw [strategyIs] at isSet
      show comparison.limit? rollout.limits = some limit
      simpa [ruleJudges.limits] using isSet
    exact Comparison.finding?_eq_none_of_operand (.inr limitIs) unresolvable
  · intro bounds boundsAre
    constructor
    · intro surge surgeIs unresolvable
      have isLeast : (Comparison.leastSurge.observed bounds).Unresolvable := by
        simpa [Comparison.observed, surgeIs] using unresolvable
      have isMost : (Comparison.mostSurge.observed bounds).Unresolvable := isLeast
      calc (((spec.without .leastSurge).without .mostSurge).validate deployment).violations
          = ((spec.without .leastSurge).validate deployment).violations :=
            validate_without_violations (silent_of_observed boundsAre isMost _)
        _ = (spec.validate deployment).violations :=
            validate_without_violations (silent_of_observed boundsAre isLeast _)
    · intro unavailable unavailableIs unresolvable
      apply validate_without_violations
      apply silent_of_observed boundsAre
      simpa [Comparison.observed, unavailableIs] using unresolvable
  · intro rollout judges comparison limit isSet unmade
    rw [judges.log_eq]
    exact StrategyRule.exists_warning_of_not_compares isSet unmade
  · intro event logged _
    obtain ⟨rollout, judges⟩ := exists_judges_of_mem_log logged
    rw [judges.log_eq] at logged
    exact ⟨rollout, judges, StrategyRule.exists_warns_of_mem_log logged⟩
  · intro violation member comparison place
    obtain ⟨rollout, judges, maker, finds⟩ := finds_of_mem member place
    obtain ⟨limit, seen, allowed, compares, breaks, same⟩ := finds
    exact ⟨rollout, judges, maker, ⟨limit, seen, allowed, compares, breaks, same⟩,
      fun bound operand => compares.resolvable operand⟩

/-- At least one and at most three more pods, the latter misspelt, and none that is missing. -/
def misspelt : RollingUpdateRule where
  minSurge := some (.count 1)
  maxSurge := some (.text "3")
  maxUnavailable := some (.count 0)

def misspeltSpec : PolicySpec where
  strategy := some { type := "RollingUpdate", rollingUpdate := some misspelt }

/-- A surge of no known size. -/
def vague (unavailable : Bound) : RollingUpdate where
  maxSurge := some (.text "lots")
  maxUnavailable := some unavailable

def vagueDeployment (unavailable : Bound) : Deployment where
  spec := some {
    replicas := some 3
    strategy := some { type := some "RollingUpdate", rollingUpdate := some (vague unavailable) } }

theorem judges_vague (unavailable : Bound) :
    misspeltSpec.Judges (vagueDeployment unavailable) ⟨3, vague unavailable, misspelt⟩ :=
  ⟨_, rfl, rfl, rfl, rfl, rfl, rfl⟩

/-- One pod may be missing that must not: neither the surge nor its limits change that. A quoted
number of missing pods is not compared, and neither is the surge, which the log says. -/
theorem unresolvable_isolated_vague :
    (Bound.text "3").Unresolvable ∧ (Bound.text "lots").Unresolvable ∧
      (Bound.text "1").Unresolvable ∧
      ((misspeltSpec.without .mostSurge).validate (vagueDeployment (.count 1))).violations =
        (misspeltSpec.validate (vagueDeployment (.count 1))).violations ∧
      (((misspeltSpec.without .leastSurge).without .mostSurge).validate
          (vagueDeployment (.count 1))).violations =
        (misspeltSpec.validate (vagueDeployment (.count 1))).violations ∧
      ((misspeltSpec.without .mostUnavailable).validate (vagueDeployment (.text "1"))).violations =
        (misspeltSpec.validate (vagueDeployment (.text "1"))).violations ∧
      (∃ event ∈ (misspeltSpec.validate (vagueDeployment (.count 1))).log, event.level = .warn ∧
        ∃ rollout, misspeltSpec.Judges (vagueDeployment (.count 1)) rollout ∧
          ∃ comparison : Comparison, comparison.Warns rollout event) ∧
      Comparison.mostUnavailable.violation (.count 1) (.count 0) ∈
        (misspeltSpec.validate (vagueDeployment (.count 1))).violations ∧
      ∃ rollout, misspeltSpec.Judges (vagueDeployment (.count 1)) rollout ∧
        ∃ maker : Comparison,
          maker.Finds rollout (Comparison.mostUnavailable.violation (.count 1) (.count 0)) ∧
            ∀ bound, maker.Operand rollout bound → ¬ bound.Unresolvable := by
  have limitUnread : (Bound.text "3").Unresolvable := Bound.unresolvable_text (by decide)
  have surgeUnread : (Bound.text "lots").Unresolvable := Bound.unresolvable_text (by decide)
  have quotedUnread : (Bound.text "1").Unresolvable := Bound.unresolvable_text (by decide)
  obtain ⟨limits, bounds, logged, _, logs, violations⟩ :=
    unresolvable_isolated misspeltSpec (vagueDeployment (.count 1))
  have quotedBounds := (unresolvable_isolated misspeltSpec (vagueDeployment (.text "1"))).2.1
  have unmade : ¬ ∃ seen allowed, Comparison.leastSurge.Compares ⟨3, vague (.count 1), misspelt⟩
      (.count 1) seen allowed := by
    intro made
    obtain ⟨_, _, compares⟩ := made
    exact compares.resolvable (.inl rfl) surgeUnread
  obtain ⟨event, isLogged, warns⟩ := logged _ (judges_vague _) .leastSurge _ rfl unmade
  have found : Comparison.mostUnavailable.violation (.count 1) (.count 0) ∈
      (misspeltSpec.validate (vagueDeployment (.count 1))).violations := by decide
  refine ⟨limitUnread, surgeUnread, quotedUnread, limits .mostSurge _ rfl limitUnread,
    (bounds _ rfl).1 _ rfl surgeUnread, (quotedBounds _ rfl).2 _ rfl quotedUnread,
    ⟨event, isLogged, warns.level, logs event isLogged warns.level⟩, found,
    violations _ found .mostUnavailable rfl⟩

end PolicySpec

end AvailabilityGate
