import AvailabilityGate.Proofs.Rule.Strictness

/-!
Owns the question whether a policy can be satisfied, and the Deployment that answers it: as many
replicas as the policy wants, and the bounds of the policy as bounds of its own.

A policy contradicts itself only in its limits to the surge. They are taken of the replicas, so that
they may leave no surge for one number of replicas and some for another.

Main statement: unless the limits leave no surge for it, the Deployment that follows the policy is
accepted; and for replicas for which they leave none, whatever resolves is rejected.
-/

namespace AvailabilityGate

/-- The bounds that a rolling update copies from its limits: the least surge, or the greatest where
there is no least. -/
def RollingUpdateRule.copied (limits : RollingUpdateRule) : RollingUpdate where
  maxSurge := limits.minSurge.or limits.maxSurge
  maxUnavailable := limits.maxUnavailable

/-- The strategy that does as it is told. -/
def StrategyRule.followed (rule : StrategyRule) : DeploymentStrategy where
  type := some rule.type
  rollingUpdate := some (rule.rollingUpdate.elim {} RollingUpdateRule.copied)

namespace Comparison

variable {comparison : Comparison} {rollout : Rollout} {limit : Bound}

theorem holds_self (comparison : Comparison) (count : Int32) : comparison.Holds count count := by
  cases comparison <;> exact Int32.le_refl count

/-- A limit that is held against itself is kept. -/
theorem Compares.holds_of_copied {seen allowed : Int32}
    (compares : comparison.Compares rollout limit seen allowed)
    (copied : comparison.observed rollout.bounds = limit) : comparison.Holds seen allowed := by
  have sameCount := compares.observed
  rw [copied, compares.limit] at sameCount
  obtain rfl : allowed = seen := Except.ok.inj sameCount
  exact comparison.holds_self allowed

/-- A copied bound is the limit itself, except for the greatest surge where there is a least one. -/
theorem observed_copied {limits : RollingUpdateRule}
    (isSet : comparison.limit? limits = some limit)
    (chosen : comparison = .mostSurge → limits.minSurge = none) :
    comparison.observed limits.copied = limit := by
  cases comparison with
  | leastSurge =>
      have limitIs : limits.minSurge = some limit := isSet
      simp [observed, RollingUpdateRule.copied, limitIs]
  | mostSurge =>
      have limitIs : limits.maxSurge = some limit := isSet
      simp [observed, RollingUpdateRule.copied, limitIs, chosen rfl]
  | mostUnavailable =>
      have limitIs : limits.maxUnavailable = some limit := isSet
      simp [observed, RollingUpdateRule.copied, limitIs]

end Comparison

namespace PolicySpec

/-- The least number of replicas that the policy accepts, and no less than none. -/
def leastReplicas (spec : PolicySpec) : Int32 :=
  max 0 ((spec.replicas.map ReplicasRule.minimum).getD 0)

/-- All containers declare everything that the policy flags. -/
def DeclaredBy (spec : PolicySpec) (containers : List Container) : Prop :=
  ∀ rule ∈ spec.resources, ∀ container ∈ containers, ∀ kind resource,
    rule.Flags kind resource → container.Declares kind resource

/-- The Deployment does as the policy says, and no more than that. Where the policy has no section on
the strategy, any will do. -/
structure FollowedBy (spec : PolicySpec) (deployment : Deployment) : Prop where
  replicas : deployment.replicas = some spec.leastReplicas
  strategy : ∀ rule ∈ spec.strategy, deployment.strategy = some rule.followed
  resources : spec.DeclaredBy deployment.containers

/-- The Deployment that follows a policy, with the given containers. -/
def exemplar (spec : PolicySpec) (containers : List Container) : Deployment where
  spec := some {
    replicas := some spec.leastReplicas
    strategy := spec.strategy.map StrategyRule.followed
    template := { spec := some { containers } } }

/-- Both limits to the surge of a rolling update resolve for so many replicas, and cross. -/
structure LeavesNoSurge (spec : PolicySpec) (replicas : Int32) : Prop where
  rolling : ∃ rule ∈ spec.strategy, rule.type = "RollingUpdate"
  crossed : ∃ least ∈ spec.limit? .leastSurge, ∃ most ∈ spec.limit? .mostSurge,
    ∃ lowest greatest, least.resolve .up replicas = .ok lowest ∧
      most.resolve .up replicas = .ok greatest ∧ greatest < lowest

variable {spec : PolicySpec} {deployment : Deployment} {rollout : Rollout}

theorem followedBy_exemplar {containers : List Container} (declared : spec.DeclaredBy containers) :
    spec.FollowedBy (spec.exemplar containers) where
  replicas := rfl
  strategy := by
    intro rule isSet
    show spec.strategy.map StrategyRule.followed = _
    rw [Option.mem_def.mp isSet]
    rfl
  resources := declared

theorem minimum_le_leastReplicas {rule : ReplicasRule} (isSet : spec.replicas = some rule) :
    rule.minimum ≤ spec.leastReplicas := by
  unfold leastReplicas
  rw [isSet]
  show rule.minimum ≤ if 0 ≤ rule.minimum then rule.minimum else 0
  split
  · exact Int32.le_refl rule.minimum
  · next negative => exact Int32.le_of_lt (Int32.not_le.mp negative)

/-! ### The Deployment that follows the policy -/

theorem FollowedBy.typeOf_eq {rule : StrategyRule} (follows : spec.FollowedBy deployment)
    (isSet : spec.strategy = some rule) : StrategyRule.typeOf deployment = rule.type := by
  unfold StrategyRule.typeOf
  rw [follows.strategy rule isSet]
  rfl

/-- The bounds that are judged are copies of the limits that they are held against. -/
theorem FollowedBy.bounds_eq (follows : spec.FollowedBy deployment)
    (judges : spec.Judges deployment rollout) : rollout.bounds = rollout.limits.copied := by
  obtain ⟨rule, isSet, ruleJudges⟩ := judges
  have boundsAre := ruleJudges.bounds
  rw [follows.strategy rule isSet] at boundsAre
  have copies : some (rule.rollingUpdate.elim {} RollingUpdateRule.copied) = some rollout.bounds :=
    boundsAre
  rw [ruleJudges.limits] at copies
  exact (Option.some.inj copies).symm

theorem FollowedBy.replicas_eq (follows : spec.FollowedBy deployment)
    (judges : spec.Judges deployment rollout) : rollout.replicas = spec.leastReplicas := by
  obtain ⟨rule, _, ruleJudges⟩ := judges
  exact Option.some.inj (ruleJudges.replicas.symm.trans follows.replicas)

theorem Judges.limit?_eq (judges : spec.Judges deployment rollout) (comparison : Comparison) :
    spec.limit? comparison = comparison.limit? rollout.limits := by
  obtain ⟨rule, isSet, ruleJudges⟩ := judges
  unfold limit?
  rw [isSet]
  show (rule.rollingUpdate.bind fun limits => comparison.limit? limits) = _
  rw [ruleJudges.limits]
  rfl

/-- Where there is a least surge, it is the one that the greatest is held against. So the two limits
cross, if that comparison fails. -/
theorem FollowedBy.leavesNoSurge (follows : spec.FollowedBy deployment)
    (judges : spec.Judges deployment rollout) {least limit : Bound} {seen allowed : Int32}
    (leastIs : rollout.limits.minSurge = some least)
    (compares : Comparison.mostSurge.Compares rollout limit seen allowed)
    (breaks : ¬ Comparison.mostSurge.Holds seen allowed) :
    spec.LeavesNoSurge spec.leastReplicas where
  rolling := by
    obtain ⟨rule, isSet, ruleJudges⟩ := judges
    exact ⟨rule, isSet, ruleJudges.rolling⟩
  crossed := by
    have observedIs : Comparison.mostSurge.observed rollout.bounds = least := by
      rw [follows.bounds_eq judges]
      simp [Comparison.observed, RollingUpdateRule.copied, leastIs]
    have leastResolves := compares.observed
    have mostResolves := compares.limit
    rw [observedIs, follows.replicas_eq judges] at leastResolves
    rw [follows.replicas_eq judges] at mostResolves
    exact ⟨least, (judges.limit?_eq .leastSurge).trans leastIs, limit,
      (judges.limit?_eq .mostSurge).trans compares.isSet, seen, allowed, leastResolves,
      mostResolves, Int32.not_le.mp breaks⟩

theorem FollowedBy.not_fails (follows : spec.FollowedBy deployment)
    (judges : spec.Judges deployment rollout) (window : ¬ spec.LeavesNoSurge spec.leastReplicas)
    (comparison : Comparison) : ¬ comparison.Fails rollout := by
  rintro ⟨limit, seen, allowed, compares, breaks⟩
  by_cases chosen : comparison = .mostSurge → rollout.limits.minSurge = none
  · have copied : comparison.observed rollout.bounds = limit := by
      rw [follows.bounds_eq judges]
      exact Comparison.observed_copied compares.isSet chosen
    exact breaks (compares.holds_of_copied copied)
  · obtain ⟨rfl, hasLeast⟩ := Classical.not_imp.mp chosen
    obtain ⟨least, leastIs⟩ := Option.ne_none_iff_exists'.mp hasLeast
    exact window (follows.leavesNoSurge judges leastIs compares breaks)

theorem FollowedBy.accepts (follows : spec.FollowedBy deployment)
    (window : ¬ spec.LeavesNoSurge spec.leastReplicas) : spec.Accepts deployment := by
  apply accepts_iff.mpr
  intro path blames
  cases blames with
  | replicas isSet few =>
      exact Int32.not_lt.mpr (minimum_le_leastReplicas isSet) (few _ follows.replicas)
  | otherType isSet differs => exact differs (follows.typeOf_eq isSet)
  | noRollingUpdate isSet same rolling absent =>
      rw [follows.strategy _ isSet] at absent
      cases absent
  | bound judges fails => exact follows.not_fails judges window _ fails
  | resource isSet member flagged undeclared =>
      exact undeclared (follows.resources _ isSet _ member _ _ flagged)

/-! ### Limits that cross -/

theorem resolve_default (replicas : Int32) :
    ∃ count, (Bound.text "25%").resolve .up replicas = .ok count := by
  have quarter : Percentage.Denotes "25%" (25 : Int32).toInt := Percentage.denotes_toString 25
  exact ⟨_, Bound.resolve_text_of_denotes quarter .up replicas⟩

/-- What resolves is on the wrong side of one of two limits that cross. -/
theorem Judges.blames_of_crossed (judges : spec.Judges deployment rollout)
    (noSurge : spec.LeavesNoSurge rollout.replicas) {seen : Int32}
    (resolves : (rollout.bounds.maxSurge.getD (.text "25%")).resolve .up rollout.replicas =
      .ok seen) : spec.Blames deployment Comparison.leastSurge.field := by
  obtain ⟨least, leastIs, most, mostIs, lowest, greatest, leastResolves, mostResolves, crossed⟩ :=
    noSurge.crossed
  by_cases enough : lowest ≤ seen
  · have tooMany : ¬ Comparison.mostSurge.Holds seen greatest := by
      intro holds
      exact Int32.not_le.mpr crossed (Int32.le_trans enough holds)
    have fails : Comparison.mostSurge.Fails rollout := ⟨most, seen, greatest,
      ⟨(judges.limit?_eq .mostSurge).symm.trans mostIs, resolves, mostResolves⟩, tooMany⟩
    -- both limits to the surge are held against one field
    have blames : spec.Blames deployment Comparison.mostSurge.field := .bound judges fails
    exact blames
  · have fails : Comparison.leastSurge.Fails rollout := ⟨least, seen, lowest,
      ⟨(judges.limit?_eq .leastSurge).symm.trans leastIs, resolves, leastResolves⟩, enough⟩
    exact .bound judges fails

theorem LeavesNoSurge.exists_blames {replicas : Int32} (noSurge : spec.LeavesNoSurge replicas)
    (replicasAre : deployment.replicas = some replicas)
    (resolves : ∀ bounds ∈ deployment.strategy.bind DeploymentStrategy.rollingUpdate,
      ∀ surge ∈ bounds.maxSurge, ∃ count, surge.resolve .up replicas = .ok count) :
    ∃ path, spec.Blames deployment path := by
  obtain ⟨rule, isSet, rolling⟩ := noSurge.rolling
  obtain ⟨least, leastIs, _⟩ := noSurge.crossed
  obtain ⟨sameRule, limits, sameIsSet, limitsAre, _⟩ := limit?_eq_some_iff.mp leastIs
  obtain rfl : rule = sameRule := Option.some.inj (isSet.symm.trans sameIsSet)
  by_cases same : StrategyRule.typeOf deployment = rule.type
  · cases boundsAre : deployment.strategy.bind DeploymentStrategy.rollingUpdate with
    | none => exact ⟨_, .noRollingUpdate isSet same rolling boundsAre⟩
    | some bounds =>
        have judges : spec.Judges deployment ⟨replicas, bounds, limits⟩ :=
          ⟨rule, isSet, same, rolling, boundsAre, replicasAre, limitsAre⟩
        obtain ⟨seen, seenIs⟩ :
            ∃ seen, (bounds.maxSurge.getD (.text "25%")).resolve .up replicas = .ok seen := by
          cases surgeIs : bounds.maxSurge with
          | none => exact resolve_default replicas
          | some surge => exact resolves bounds boundsAre surge surgeIs
        exact ⟨_, judges.blames_of_crossed noSurge seenIs⟩
  · exact ⟨_, .otherType isSet same⟩

/-- A policy accepts every Deployment that follows it, and one does with any containers that declare
what is flagged, unless the limits leave no surge for the least replicas that it accepts. For
replicas for which they leave none, every Deployment with these replicas is found wrong, unless the
surge that it writes does not resolve. -/
theorem satisfied_unless_crossed (spec : PolicySpec) :
    (¬ spec.LeavesNoSurge spec.leastReplicas →
      ∀ deployment, spec.FollowedBy deployment → (spec.validate deployment).violations = []) ∧
    (∀ containers, spec.DeclaredBy containers →
      spec.FollowedBy (spec.exemplar containers) ∧
        (spec.exemplar containers).containers = containers) ∧
    ∀ replicas, spec.LeavesNoSurge replicas → ∀ deployment, deployment.replicas = some replicas →
      (∀ bounds ∈ deployment.strategy.bind DeploymentStrategy.rollingUpdate,
        ∀ surge ∈ bounds.maxSurge, ∃ count, surge.resolve .up replicas = .ok count) →
      (spec.validate deployment).violations ≠ [] := by
  refine ⟨fun window deployment follows => follows.accepts window,
    fun containers declared => ⟨followedBy_exemplar declared, rfl⟩, ?_⟩
  intro replicas noSurge deployment replicasAre resolves
  obtain ⟨path, blames⟩ := noSurge.exists_blames replicasAre resolves
  obtain ⟨violation, member, _⟩ := blames.exists_violation
  exact List.ne_nil_of_mem member

/-- One more pod, and no more than a tenth: of twenty replicas that is two, of none it is none. -/
def tenthAtMost : PolicySpec where
  replicas := some ⟨20⟩
  strategy := some {
    type := "RollingUpdate"
    rollingUpdate := some {
      minSurge := some (.count 1), maxSurge := some (.text "10%")
      maxUnavailable := some (.text "few") } }
  resources := some { limits := .ofList [("memory", true), ("cpu", false)] }

theorem not_leavesNoSurge_tenthAtMost : ¬ tenthAtMost.LeavesNoSurge 20 := by
  rintro ⟨_, least, ⟨rfl⟩, most, ⟨rfl⟩, lowest, greatest, leastResolves, mostResolves, crossed⟩
  have two : (Bound.text "10%").resolve .up 20 = .ok 2 := by decide +kernel
  obtain rfl : 1 = lowest := Except.ok.inj leastResolves
  obtain rfl : 2 = greatest := Except.ok.inj (two.symm.trans mostResolves)
  exact absurd crossed (by decide)

theorem leavesNoSurge_tenthAtMost : tenthAtMost.LeavesNoSurge 0 where
  rolling := ⟨_, rfl, rfl⟩
  crossed := ⟨_, rfl, _, rfl, 1, 0, rfl, by decide +kernel, by decide⟩

/-- The policy can be satisfied with twenty replicas, and with none it cannot. -/
theorem satisfied_unless_crossed_tenthAtMost :
    ¬ tenthAtMost.LeavesNoSurge tenthAtMost.leastReplicas ∧
      tenthAtMost.DeclaredBy (withSurge 20 1).containers ∧
      tenthAtMost.FollowedBy (tenthAtMost.exemplar (withSurge 20 1).containers) ∧
      (tenthAtMost.validate (tenthAtMost.exemplar (withSurge 20 1).containers)).violations = [] ∧
      tenthAtMost.LeavesNoSurge 0 ∧ (withSurge 0 1).replicas = some 0 ∧
      (tenthAtMost.validate (withSurge 0 1)).violations ≠ [] := by
  obtain ⟨accepts, exemplars, rejects⟩ := satisfied_unless_crossed tenthAtMost
  have window : ¬ tenthAtMost.LeavesNoSurge tenthAtMost.leastReplicas :=
    not_leavesNoSurge_tenthAtMost
  have declared : tenthAtMost.DeclaredBy (withSurge 20 1).containers := by
    rintro rule ⟨rfl⟩ container member kind resource flagged
    cases kind with
    | requests => cases flagged
    | limits =>
        have listed : (resource, true) ∈ [("cpu", false), ("memory", true)] :=
          Table.mem_entries_iff.mpr flagged
        obtain rfl : resource = "memory" := by simpa using listed
        rw [List.mem_singleton.mp member]
        exact ⟨_, rfl, _, rfl, by decide⟩
  have follows := (exemplars _ declared).1
  refine ⟨window, declared, follows, accepts window _ follows, leavesNoSurge_tenthAtMost, rfl, ?_⟩
  refine rejects 0 leavesNoSurge_tenthAtMost (withSurge 0 1) rfl ?_
  rintro bounds ⟨rfl⟩ surge ⟨rfl⟩
  exact ⟨1, rfl⟩

end PolicySpec

end AvailabilityGate
