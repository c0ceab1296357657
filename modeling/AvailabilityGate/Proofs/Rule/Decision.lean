import AvailabilityGate.Proofs.Rule.Comparison

/-!
Owns the outcomes of the strategy rule: what a Deployment and a rule have to be like for each of
them, and the violations that it stands for.

Main statement: the violations that the rule finds are those of an outcome whose conditions are met,
and there is always exactly one such list. A Deployment that leaves a bound open is judged like one
that writes the default in its place.
-/

namespace AvailabilityGate

/-- The default in place of each bound that is left open. -/
def RollingUpdate.spelledOut (bounds : RollingUpdate) : RollingUpdate where
  maxSurge := some (bounds.maxSurge.getD (.text "25%"))
  maxUnavailable := some (bounds.maxUnavailable.getD (.text "25%"))

def DeploymentStrategy.spelledOut (strategy : DeploymentStrategy) : DeploymentStrategy :=
  { strategy with rollingUpdate := strategy.rollingUpdate.map RollingUpdate.spelledOut }

def DeploymentSpec.spelledOut (spec : DeploymentSpec) : DeploymentSpec :=
  { spec with strategy := spec.strategy.map DeploymentStrategy.spelledOut }

/-- The Deployment with the default in place of each bound that its rolling update leaves open. -/
def Deployment.spelledOut (deployment : Deployment) : Deployment :=
  { deployment with spec := deployment.spec.map DeploymentSpec.spelledOut }

namespace StrategyRule

open Comparison

/-- The rule comes to its comparisons, and this is the rolling update that it judges. -/
structure Judges (rule : StrategyRule) (deployment : Deployment) (rollout : Rollout) : Prop where
  sameType : typeOf deployment = rule.type
  rolling : rule.type = "RollingUpdate"
  bounds : deployment.strategy.bind DeploymentStrategy.rollingUpdate = some rollout.bounds
  replicas : deployment.replicas = some rollout.replicas
  limits : rule.rollingUpdate = some rollout.limits

/-- The outcomes of the rule, each with its violations. -/
inductive Decides (rule : StrategyRule) (deployment : Deployment) : List Violation → Prop where
  /-- A Deployment of another type is not looked at any further. -/
  | otherType (differs : typeOf deployment ≠ rule.type) :
      Decides rule deployment
        [.invalid ⟨["spec", "strategy", "type"]⟩ (typeOf deployment)
          ("should be '" ++ rule.type ++ "'")]
  | notRolling (same : typeOf deployment = rule.type) (other : rule.type ≠ "RollingUpdate") :
      Decides rule deployment []
  | noRollingUpdate (same : typeOf deployment = rule.type) (rolling : rule.type = "RollingUpdate")
      (absent : deployment.strategy.bind DeploymentStrategy.rollingUpdate = none) :
      Decides rule deployment [.required ⟨["spec", "strategy", "rollingUpdate"]⟩]
  /-- Without replicas percentages mean nothing, and without limits there is nothing to hold. -/
  | nothingToCompare (same : typeOf deployment = rule.type)
      (rolling : rule.type = "RollingUpdate")
      (present : deployment.strategy.bind DeploymentStrategy.rollingUpdate ≠ none)
      (absent : deployment.replicas = none ∨ rule.rollingUpdate = none) :
      Decides rule deployment []
  /-- Each comparison contributes its violation or nothing, whatever comes of the others. -/
  | compared {rollout : Rollout} {finding : Comparison → Option Violation}
      (judges : rule.Judges deployment rollout)
      (finds : ∀ comparison violation,
        finding comparison = some violation ↔ comparison.Finds rollout violation) :
      Decides rule deployment
        ([.leastSurge, .mostSurge, .mostUnavailable].filterMap finding)

variable {rule : StrategyRule} {deployment : Deployment} {rollout : Rollout}

/-- What is left of the check behind its two questions about the type. -/
theorem check_of_rolling (same : typeOf deployment = rule.type)
    (rolling : rule.type = "RollingUpdate") (report : Report) :
    rule.check deployment report =
      match deployment.strategy.bind DeploymentStrategy.rollingUpdate with
      | none => report.add (.required rollingUpdateField)
      | some bounds =>
          match deployment.replicas, rule.rollingUpdate with
          | some replicas, some limits => checkBounds limits replicas bounds report
          | _, _ => report := by
  have isRolling : ¬ rule.type ≠ rollingUpdateType := not_not.mpr rolling
  unfold StrategyRule.check
  exact (if_neg (not_not.mpr same)).trans (if_neg isRolling)

theorem Judges.check_eq (judges : rule.Judges deployment rollout) (report : Report) :
    rule.check deployment report =
      checkBounds rollout.limits rollout.replicas rollout.bounds report := by
  rw [check_of_rolling judges.sameType judges.rolling, judges.bounds, judges.replicas,
    judges.limits]

/-- What a rule decides is all that its check adds to any report, unless it comes to its
comparisons; then it is what they find. -/
theorem Decides.quiet_or_judges {found : List Violation} (decides : rule.Decides deployment found) :
    (∀ report, rule.check deployment report = report ++ { violations := found }) ∨
      ∃ rollout, rule.Judges deployment rollout ∧ found = inOrder.filterMap (finding? rollout) := by
  cases decides with
  | otherType differs =>
      left
      intro report
      unfold StrategyRule.check
      rw [if_pos differs, Report.add_eq]
      rfl
  | notRolling same other =>
      left
      intro report
      have notRolling : rule.type ≠ rollingUpdateType := other
      unfold StrategyRule.check
      rw [if_neg (not_not.mpr same), if_pos notRolling]
      exact Report.append_empty.symm
  | noRollingUpdate same rolling absent =>
      left
      intro report
      rw [check_of_rolling same rolling, absent]
      exact report.add_eq _
  | nothingToCompare same rolling present absent =>
      left
      intro report
      obtain ⟨bounds, boundsAre⟩ := Option.ne_none_iff_exists'.mp present
      rw [check_of_rolling same rolling, boundsAre]
      cases absent with
      | inl noReplicas =>
          rw [noReplicas]
          exact Report.append_empty.symm
      | inr noLimits =>
          rw [noLimits]
          cases deployment.replicas <;> exact Report.append_empty.symm
  | @compared rollout finding judges finds =>
      have sameFinding : finding = finding? rollout := by
        funext comparison
        apply Option.ext
        intro violation
        rw [finds, finding?_eq_some_iff]
      right
      exact ⟨rollout, judges, by rw [sameFinding]; rfl⟩

theorem Decides.violations {found : List Violation} (decides : rule.Decides deployment found)
    (report : Report) :
    (rule.check deployment report).violations = report.violations ++ found := by
  cases decides.quiet_or_judges with
  | inl quiet => rw [quiet, Report.violations_append]
  | inr judged =>
      obtain ⟨rollout, judges, rfl⟩ := judged
      rw [judges.check_eq, checkBounds_violations]

/-- The conditions of the outcomes leave nothing out. -/
theorem decides_exists (rule : StrategyRule) (deployment : Deployment) :
    ∃ found, rule.Decides deployment found := by
  by_cases same : typeOf deployment = rule.type
  · by_cases rolling : rule.type = "RollingUpdate"
    · cases boundsAre : deployment.strategy.bind DeploymentStrategy.rollingUpdate with
      | none => exact ⟨_, .noRollingUpdate same rolling boundsAre⟩
      | some bounds =>
          have present : deployment.strategy.bind DeploymentStrategy.rollingUpdate ≠ none := by
            rw [boundsAre]
            exact Option.some_ne_none bounds
          cases replicasAre : deployment.replicas with
          | none => exact ⟨_, .nothingToCompare same rolling present (.inl replicasAre)⟩
          | some replicas =>
              cases limitsAre : rule.rollingUpdate with
              | none => exact ⟨_, .nothingToCompare same rolling present (.inr limitsAre)⟩
              | some limits =>
                  have judges : rule.Judges deployment ⟨replicas, bounds, limits⟩ :=
                    ⟨same, rolling, boundsAre, replicasAre, limitsAre⟩
                  exact ⟨_, .compared judges fun _ _ => finding?_eq_some_iff⟩
    · exact ⟨_, .notRolling same rolling⟩
  · exact ⟨_, .otherType same⟩

/-! ### Single violations -/

/-- A violation that the rule finds, with what it is about. -/
inductive Reports (rule : StrategyRule) (deployment : Deployment) : Violation → Prop where
  | otherType (differs : typeOf deployment ≠ rule.type) :
      Reports rule deployment
        (.invalid ⟨["spec", "strategy", "type"]⟩ (typeOf deployment)
          ("should be '" ++ rule.type ++ "'"))
  | noRollingUpdate (same : typeOf deployment = rule.type) (rolling : rule.type = "RollingUpdate")
      (absent : deployment.strategy.bind DeploymentStrategy.rollingUpdate = none) :
      Reports rule deployment (.required ⟨["spec", "strategy", "rollingUpdate"]⟩)
  | compared {rollout : Rollout} {comparison : Comparison} {violation : Violation}
      (judges : rule.Judges deployment rollout) (finds : comparison.Finds rollout violation) :
      Reports rule deployment violation

theorem Decides.mem_check_iff {found : List Violation} {violation : Violation}
    (decides : rule.Decides deployment found) :
    violation ∈ (rule.check deployment {}).violations ↔ violation ∈ found := by
  rw [decides.violations {}]
  rfl

theorem mem_check_iff {violation : Violation} :
    violation ∈ (rule.check deployment {}).violations ↔ rule.Reports deployment violation := by
  constructor
  · intro member
    obtain ⟨found, decides⟩ := decides_exists rule deployment
    rw [decides.mem_check_iff] at member
    cases decides with
    | otherType differs => exact List.mem_singleton.mp member ▸ .otherType differs
    | notRolling same other => exact absurd member List.not_mem_nil
    | noRollingUpdate same rolling absent =>
        exact List.mem_singleton.mp member ▸ .noRollingUpdate same rolling absent
    | nothingToCompare same rolling present absent => exact absurd member List.not_mem_nil
    | compared judges finds =>
        obtain ⟨comparison, _, found⟩ := List.mem_filterMap.mp member
        exact .compared judges ((finds comparison violation).mp found)
  · intro reports
    cases reports with
    | otherType differs =>
        exact (Decides.otherType differs).mem_check_iff.mpr (List.mem_singleton_self _)
    | noRollingUpdate same rolling absent =>
        exact (Decides.noRollingUpdate same rolling absent).mem_check_iff.mpr
          (List.mem_singleton_self _)
    | @compared rollout comparison _ judges finds =>
        have decides : rule.Decides deployment (inOrder.filterMap (finding? rollout)) :=
          .compared judges fun _ _ => finding?_eq_some_iff
        refine decides.mem_check_iff.mpr (List.mem_filterMap.mpr ⟨comparison, ?_, ?_⟩)
        · cases comparison <;> decide
        · exact finding?_eq_some_iff.mpr finds

/-! ### Bounds that are left open -/

theorem strategy_spelledOut (deployment : Deployment) :
    deployment.spelledOut.strategy = deployment.strategy.map DeploymentStrategy.spelledOut := by
  unfold Deployment.strategy Deployment.spelledOut
  cases deployment.spec <;> rfl

theorem replicas_spelledOut (deployment : Deployment) :
    deployment.spelledOut.replicas = deployment.replicas := by
  unfold Deployment.replicas Deployment.spelledOut
  cases deployment.spec <;> rfl

/-- The check looks at a bound that is left open as if the default stood there. -/
theorem check_spelledOut (rule : StrategyRule) (deployment : Deployment) (report : Report) :
    rule.check deployment.spelledOut report = rule.check deployment report := by
  have sameType : typeOf deployment.spelledOut = typeOf deployment := by
    unfold typeOf
    rw [strategy_spelledOut]
    cases deployment.strategy <;> rfl
  have spelledOutBounds : deployment.spelledOut.strategy.bind DeploymentStrategy.rollingUpdate =
      (deployment.strategy.bind DeploymentStrategy.rollingUpdate).map
        RollingUpdate.spelledOut := by
    rw [strategy_spelledOut]
    cases deployment.strategy <;> rfl
  unfold StrategyRule.check
  rw [sameType, spelledOutBounds, replicas_spelledOut]
  cases deployment.strategy.bind DeploymentStrategy.rollingUpdate <;> rfl

/-- The check finds the violations of the one outcome whose conditions are met: those of another
type, of a missing rolling update, none, or those of the comparisons that are made and fail, in
order. What is left open counts as the default. -/
theorem check_decides (rule : StrategyRule) (deployment : Deployment) (report : Report) :
    (∀ found, (rule.check deployment report).violations = report.violations ++ found ↔
      rule.Decides deployment found) ∧
    rule.check deployment.spelledOut report = rule.check deployment report := by
  refine ⟨fun found => ⟨fun finds => ?_, fun decides => decides.violations report⟩,
    check_spelledOut rule deployment report⟩
  obtain ⟨decided, decides⟩ := decides_exists rule deployment
  have same : decided = found :=
    List.append_cancel_left ((decides.violations report).symm.trans finds)
  exact same ▸ decides

/-- Open bounds of four replicas come to one pod each: no less than one, but more than none. -/
example :
    (checkBounds { minSurge := some (.count 1), maxUnavailable := some (.count 0) } 4 {}
      {}).violations = [mostUnavailable.violation (.text "25%") (.count 0)] := by
  decide +kernel

end StrategyRule

end AvailabilityGate
