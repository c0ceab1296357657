import AvailabilityGate.Proofs.Rule.Isolation

/-!
Owns the fields that a policy finds something wrong with, each with the condition on which it does.

Main statement: validation reports a field exactly if one of these conditions is met for it. What the
violations say is not owned here.
-/

namespace AvailabilityGate

/-- A comparison that is made and fails. -/
def Comparison.Fails (comparison : Comparison) (rollout : Rollout) : Prop :=
  ∃ limit seen allowed, comparison.Compares rollout limit seen allowed ∧
    ¬ comparison.Holds seen allowed

theorem Comparison.Fails.exists_finds {comparison : Comparison} {rollout : Rollout}
    (fails : comparison.Fails rollout) :
    ∃ violation, comparison.Finds rollout violation ∧ violation.field = comparison.field := by
  obtain ⟨limit, seen, allowed, compares, breaks⟩ := fails
  exact ⟨_, ⟨limit, seen, allowed, compares, breaks, rfl⟩, rfl⟩

theorem Comparison.Finds.fails {comparison : Comparison} {rollout : Rollout} {violation : Violation}
    (finds : comparison.Finds rollout violation) :
    comparison.Fails rollout ∧ violation.field = comparison.field := by
  obtain ⟨limit, seen, allowed, compares, breaks, rfl⟩ := finds
  exact ⟨⟨limit, seen, allowed, compares, breaks⟩, rfl⟩

namespace PolicySpec

/-- What has to be wrong with a Deployment for a policy to report a field. -/
inductive Blames (spec : PolicySpec) (deployment : Deployment) : FieldPath → Prop where
  /-- Too few replicas, or no word about them. -/
  | replicas {rule : ReplicasRule} (isSet : spec.replicas = some rule)
      (few : ∀ replicas ∈ deployment.replicas, replicas < rule.minimum) :
      Blames spec deployment ⟨["spec", "replicas"]⟩
  | otherType {rule : StrategyRule} (isSet : spec.strategy = some rule)
      (differs : StrategyRule.typeOf deployment ≠ rule.type) :
      Blames spec deployment ⟨["spec", "strategy", "type"]⟩
  | noRollingUpdate {rule : StrategyRule} (isSet : spec.strategy = some rule)
      (same : StrategyRule.typeOf deployment = rule.type) (rolling : rule.type = "RollingUpdate")
      (absent : deployment.strategy.bind DeploymentStrategy.rollingUpdate = none) :
      Blames spec deployment ⟨["spec", "strategy", "rollingUpdate"]⟩
  | bound {rollout : Rollout} {comparison : Comparison} (judges : spec.Judges deployment rollout)
      (fails : comparison.Fails rollout) :
      Blames spec deployment comparison.field
  | resource {rule : ResourcesRule} {container : Container} {kind : ResourceKind}
      {resource : String} (isSet : spec.resources = some rule)
      (member : container ∈ deployment.containers) (flagged : rule.Flags kind resource)
      (undeclared : ¬ container.Declares kind resource) :
      Blames spec deployment (kind.field container resource)

variable {spec : PolicySpec} {deployment : Deployment} {violation : Violation} {path : FieldPath}

/-! ### From a violation to what is wrong -/

theorem blames_of_mem_replicas {rule : ReplicasRule} (isSet : spec.replicas = some rule)
    (member : violation ∈ (rule.check deployment {}).violations) :
    spec.Blames deployment violation.field := by
  have found := ReplicasRule.mem_check_iff.mp member
  rw [ReplicasRule.field_of_finding? found]
  refine .replicas isSet fun replicas replicasAre => ?_
  by_contra enough
  rw [ReplicasRule.finding?_eq_none_iff.mpr ⟨replicas, replicasAre, Int32.not_lt.mp enough⟩] at found
  cases found

theorem blames_of_mem_strategy {rule : StrategyRule} (isSet : spec.strategy = some rule)
    (member : violation ∈ (rule.check deployment {}).violations) :
    spec.Blames deployment violation.field := by
  cases StrategyRule.mem_check_iff.mp member with
  | otherType differs => exact .otherType isSet differs
  | noRollingUpdate same rolling absent => exact .noRollingUpdate isSet same rolling absent
  | compared judges finds =>
      obtain ⟨fails, place⟩ := finds.fails
      rw [place]
      exact .bound ⟨rule, isSet, judges⟩ fails

theorem blames_of_mem_resources {rule : ResourcesRule} (isSet : spec.resources = some rule)
    (member : violation ∈ (rule.check deployment {}).violations) :
    spec.Blames deployment violation.field := by
  obtain ⟨container, inPod, kind, resource, flagged, undeclared, rfl⟩ :=
    ResourcesRule.mem_check_iff.mp member
  exact .resource isSet inPod flagged undeclared

/-! ### From what is wrong to a violation -/

theorem exists_violation_of_reports {rule : StrategyRule} (isSet : spec.strategy = some rule)
    (reports : rule.Reports deployment violation) :
    ∃ other ∈ (spec.validate deployment).violations, other.field = violation.field :=
  ⟨violation, mem_validate_iff.mpr (.inr (.inl ⟨rule, isSet,
    StrategyRule.mem_check_iff.mpr reports⟩)), rfl⟩

theorem Blames.exists_violation (blames : spec.Blames deployment path) :
    ∃ violation ∈ (spec.validate deployment).violations, violation.field = path := by
  cases blames with
  | @replicas rule isSet few =>
      have notNone : rule.finding? deployment ≠ none := by
        rw [Ne, ReplicasRule.finding?_eq_none_iff]
        rintro ⟨replicas, replicasAre, enough⟩
        exact Int32.not_le.mpr (few replicas replicasAre) enough
      obtain ⟨violation, found⟩ := Option.ne_none_iff_exists'.mp notNone
      refine ⟨violation, ?_, ReplicasRule.field_of_finding? found⟩
      exact mem_validate_iff.mpr (.inl ⟨rule, isSet, ReplicasRule.mem_check_iff.mpr found⟩)
  | otherType isSet differs => exact exists_violation_of_reports isSet (.otherType differs)
  | noRollingUpdate isSet same rolling absent =>
      exact exists_violation_of_reports isSet (.noRollingUpdate same rolling absent)
  | bound judges fails =>
      obtain ⟨violation, finds, place⟩ := fails.exists_finds
      exact ⟨violation, judges.mem_violations finds, place⟩
  | @resource rule container kind resource isSet member flagged undeclared =>
      refine ⟨.required (kind.field container resource), ?_, rfl⟩
      refine mem_validate_iff.mpr (.inr (.inr ⟨rule, isSet, ?_⟩))
      exact ResourcesRule.mem_check_iff.mpr
        ⟨container, member, kind, resource, flagged, undeclared, rfl⟩

/-- The fields that are reported are those that something is wrong with. -/
theorem exists_violation_iff :
    (∃ violation ∈ (spec.validate deployment).violations, violation.field = path) ↔
      spec.Blames deployment path := by
  constructor
  · rintro ⟨violation, member, rfl⟩
    rcases mem_validate_iff.mp member with ⟨_, isSet, found⟩ | ⟨_, isSet, found⟩ | ⟨_, isSet, found⟩
    · exact blames_of_mem_replicas isSet found
    · exact blames_of_mem_strategy isSet found
    · exact blames_of_mem_resources isSet found
  · exact Blames.exists_violation

theorem accepts_iff : spec.Accepts deployment ↔ ∀ path, ¬ spec.Blames deployment path := by
  unfold Accepts
  rw [List.eq_nil_iff_forall_not_mem]
  constructor
  · intro nothing path blames
    obtain ⟨violation, member, _⟩ := blames.exists_violation
    exact nothing violation member
  · intro nothing violation member
    exact nothing violation.field (exists_violation_iff.mp ⟨violation, member, rfl⟩)

end PolicySpec

end AvailabilityGate
