import AvailabilityGate.Proofs.Rule.Decision
import AvailabilityGate.Proofs.Rule.Declarations

/-!
Owns what is found wrong with the number of replicas, and above all with its absence: the strategy
rule compares nothing without replicas, and leaves it to the replica rule to say so.

Main statement: where the strategy rule stops for want of replicas, this is reported exactly by the
policies with a section on replicas. A policy without one reports nothing, and its bounds are held
against nobody who leaves the replicas out.
-/

namespace AvailabilityGate

namespace ReplicasRule

open Report

variable {deployment : Deployment}

theorem check_of_missing (missing : deployment.replicas = none) (rule : ReplicasRule)
    (report : Report) :
    rule.check deployment report = report ++ { violations := [.required field] } := by
  unfold check
  rw [missing, add_eq]

/-- What is found wrong with the replicas. -/
def finding? (rule : ReplicasRule) (deployment : Deployment) : Option Violation :=
  match deployment.replicas with
  | none => some (.required field)
  | some replicas =>
      if replicas < rule.minimum then
        some (.invalid field (toString replicas.toInt)
          ("should be at least " ++ toString rule.minimum.toInt))
      else none

theorem check_eq (rule : ReplicasRule) (deployment : Deployment) (report : Report) :
    rule.check deployment report =
      report ++ { violations := (rule.finding? deployment).toList } := by
  unfold check finding?
  cases deployment.replicas with
  | none => exact report.add_eq _
  | some replicas =>
      by_cases few : replicas < rule.minimum
      · simp only [if_pos few]
        exact report.add_eq _
      · simp only [if_neg few]
        exact append_empty.symm

theorem mem_check_iff {rule : ReplicasRule} {violation : Violation} :
    violation ∈ (rule.check deployment {}).violations ↔ rule.finding? deployment = some violation := by
  rw [check_eq, violations_append, List.nil_append, Option.mem_toList]

theorem field_of_finding? {rule : ReplicasRule} {violation : Violation}
    (found : rule.finding? deployment = some violation) : violation.field = field := by
  unfold finding? at found
  cases replicasAre : deployment.replicas with
  | none =>
      rw [replicasAre] at found
      exact congrArg Violation.field (Option.some.inj found).symm
  | some replicas =>
      rw [replicasAre] at found
      obtain ⟨_, same⟩ := Option.ite_none_right_eq_some.mp found
      exact congrArg Violation.field (Option.some.inj same).symm

/-- Nothing is found exactly if there are replicas, and enough of them. -/
theorem finding?_eq_none_iff {rule : ReplicasRule} :
    rule.finding? deployment = none ↔
      ∃ replicas, deployment.replicas = some replicas ∧ rule.minimum ≤ replicas := by
  unfold finding?
  cases deployment.replicas with
  | none => simp
  | some replicas => simp [← Int32.not_lt]

/-- All that the rule finds is at the field of the replicas, and it logs nothing. -/
theorem exists_check_eq (rule : ReplicasRule) (deployment : Deployment) :
    ∃ found : List Violation, (∀ violation ∈ found, violation.field = field) ∧
      ∀ report, rule.check deployment report = report ++ { violations := found } := by
  refine ⟨_, ?_, rule.check_eq deployment⟩
  intro violation member
  exact field_of_finding? (Option.mem_toList.mp member)

end ReplicasRule

namespace PolicySpec

open Report

/-- The policy has bounds for rolling updates, and the Deployment has a rolling update to hold them
against, but does not say of how many replicas. -/
structure StopsForReplicas (spec : PolicySpec) (deployment : Deployment) : Prop where
  missing : deployment.replicas = none
  sameType : StrategyRule.typeOf deployment = "RollingUpdate"
  updates : deployment.strategy.bind DeploymentStrategy.rollingUpdate ≠ none
  bounded : ∃ rule limits, spec.strategy = some rule ∧ rule.type = "RollingUpdate" ∧
    rule.rollingUpdate = some limits ∧
    ∃ comparison : Comparison, comparison.limit? limits ≠ none

variable {spec : PolicySpec} {deployment : Deployment}

/-! ### The sections that log nothing -/

/-- The section on replicas reports at the field of the replicas. -/
theorem exists_checkReplicas_eq (spec : PolicySpec) (deployment : Deployment) :
    ∃ found : List Violation, (∀ violation ∈ found, violation.field = ReplicasRule.field) ∧
      ∀ report, spec.checkReplicas deployment report = report ++ { violations := found } := by
  unfold checkReplicas
  cases spec.replicas with
  | none => exact ⟨[], by simp, fun _ => append_empty.symm⟩
  | some rule => exact rule.exists_check_eq deployment

/-- The section on resources reports where resources are declared. -/
theorem exists_checkResources_eq (spec : PolicySpec) (deployment : Deployment) :
    ∃ found : List Violation,
      (∀ violation ∈ found, ∃ (kind : ResourceKind) (container : Container) (resource : String),
        violation.field = kind.field container resource) ∧
      ∀ report, spec.checkResources deployment report = report ++ { violations := found } := by
  unfold checkResources
  cases spec.resources with
  | none => exact ⟨[], by simp, fun _ => append_empty.symm⟩
  | some rule =>
      refine ⟨_, ?_, rule.check_eq deployment⟩
      intro violation found
      obtain ⟨container, _, listed⟩ := List.mem_flatMap.mp found
      obtain ⟨kind, resource, _, _, rfl⟩ := ResourcesRule.mem_findings_iff.mp listed
      exact ⟨kind, container, resource, rfl⟩

/-! ### Replicas that are missing -/

theorem StopsForReplicas.checkStrategy_eq (stops : spec.StopsForReplicas deployment)
    (report : Report) : spec.checkStrategy deployment report = report := by
  obtain ⟨rule, _, strategyIs, rolling, _, _⟩ := stops.bounded
  obtain ⟨bounds, boundsAre⟩ := Option.ne_none_iff_exists'.mp stops.updates
  unfold checkStrategy
  rw [strategyIs]
  show rule.check deployment report = report
  rw [StrategyRule.check_of_rolling (stops.sameType.trans rolling.symm) rolling, boundsAre,
    stops.missing]

theorem required_replicas_mem_iff (missing : deployment.replicas = none) (spec : PolicySpec) :
    .required ReplicasRule.field ∈ (spec.checkReplicas deployment {}).violations ↔
      spec.replicas ≠ none := by
  unfold checkReplicas
  cases spec.replicas with
  | none => simp
  | some rule => simp [ReplicasRule.check_of_missing missing rule]

/-- Where nothing but the replicas is missing for a comparison, the violation of the replicas is
found if and only if the policy has a section on replicas; either way the strategy section changes
nothing. -/
theorem missing_replicas_reported_iff (stops : spec.StopsForReplicas deployment) :
    (.required ⟨["spec", "replicas"]⟩ ∈ (spec.validate deployment).violations ↔
      spec.replicas ≠ none) ∧
    spec.validate deployment = ({ spec with strategy := none } : PolicySpec).validate deployment := by
  have unchanged : spec.validate deployment =
      ({ spec with strategy := none } : PolicySpec).validate deployment := by
    unfold validate
    rw [stops.checkStrategy_eq]
    rfl
  refine ⟨?_, unchanged⟩
  obtain ⟨ofResources, atResources, resourcesAre⟩ := exists_checkResources_eq spec deployment
  have elsewhere : .required ReplicasRule.field ∉ ofResources := by
    intro listed
    obtain ⟨kind, container, resource, place⟩ := atResources _ listed
    exact ResourceKind.ne_field_of_short (by decide) kind container resource place
  unfold validate
  rw [stops.checkStrategy_eq, resourcesAre, violations_append, List.mem_append,
    ← required_replicas_mem_iff stops.missing]
  exact or_iff_left elsewhere

/-- At most one more pod during an update, and nothing about replicas. -/
def surgeOnly : PolicySpec where
  strategy := some {
    type := "RollingUpdate", rollingUpdate := some { maxSurge := some (.count 1) } }

/-- Twice the pods during an update, of no stated number. -/
def withoutReplicas : Deployment where
  spec := some {
    strategy := some {
      type := some "RollingUpdate"
      rollingUpdate := some { maxSurge := some (.text "100%") } } }

theorem stops_surgeOnly (replicas : Option ReplicasRule) :
    ({ surgeOnly with replicas } : PolicySpec).StopsForReplicas withoutReplicas where
  missing := rfl
  sameType := rfl
  updates := by decide
  bounded := ⟨_, _, rfl, rfl, rfl, .mostSurge, by decide⟩

/-- A policy that asks for no number of replicas lets the missing one pass. -/
theorem missing_replicas_unreported :
    ¬ ∀ (spec : PolicySpec) (deployment : Deployment), spec.StopsForReplicas deployment →
      .required ⟨["spec", "replicas"]⟩ ∈ (spec.validate deployment).violations := by
  intro reported
  have listed := reported surgeOnly withoutReplicas (stops_surgeOnly none)
  have nothing : (surgeOnly.validate withoutReplicas).violations = [] := by decide
  rw [nothing] at listed
  exact List.not_mem_nil listed

/-- The same policy with and without a section on replicas. -/
theorem missing_replicas_reported_iff_surgeOnly :
    surgeOnly.StopsForReplicas withoutReplicas ∧
      .required ⟨["spec", "replicas"]⟩ ∉ (surgeOnly.validate withoutReplicas).violations ∧
      ({ surgeOnly with replicas := some ⟨2⟩ } : PolicySpec).StopsForReplicas withoutReplicas ∧
      .required ⟨["spec", "replicas"]⟩ ∈
        (({ surgeOnly with replicas := some ⟨2⟩ } : PolicySpec).validate withoutReplicas).violations := by
  have stops : surgeOnly.StopsForReplicas withoutReplicas := stops_surgeOnly none
  have stopsWithReplicas := stops_surgeOnly (some ⟨2⟩)
  refine ⟨stops, ?_, stopsWithReplicas, ?_⟩
  · rw [(missing_replicas_reported_iff stops).1]
    decide
  · rw [(missing_replicas_reported_iff stopsWithReplicas).1]
    decide

end PolicySpec

end AvailabilityGate
