import AvailabilityGate.Rule.Validation

/-!
Owns the independence of the rules. A rule only appends to the report that it is given, and what it
appends does not depend on what the report holds already, so that a policy finds what its sections
find one by one.

Main statement: validation against a policy is validation against each of its sections alone, one
after the other.
-/

namespace AvailabilityGate

namespace Report

/-- One report behind another: the violations and the log of the second follow those of the
first. -/
instance : Append Report where
  append first second := ⟨first.violations ++ second.violations, first.log ++ second.log⟩

variable {first second third : Report}

@[simp]
theorem violations_append : (first ++ second).violations = first.violations ++ second.violations :=
  rfl

@[simp]
theorem log_append : (first ++ second).log = first.log ++ second.log :=
  rfl

theorem append_assoc : first ++ second ++ third = first ++ (second ++ third) := by
  show Report.mk _ _ = Report.mk _ _
  simp only [violations_append, log_append, List.append_assoc]

theorem append_empty : first ++ {} = first := by
  show Report.mk _ _ = first
  rw [List.append_nil, List.append_nil]

theorem add_eq (report : Report) (violation : Violation) :
    report.add violation = report ++ { violations := [violation] } :=
  congrArg (Report.mk _) (List.append_nil report.log).symm

theorem note_eq (report : Report) (event : LogEvent) :
    report.note event = report ++ { log := [event] } :=
  congrArg (Report.mk · _) (List.append_nil report.violations).symm

/-- Puts its findings behind those of any report, and finds the same whatever the report holds. -/
def OnlyAppends (step : Report → Report) : Prop :=
  ∀ report, step report = report ++ step {}

/-! ### The ways in which rules are put together -/

namespace OnlyAppends

theorem unchanged : OnlyAppends fun report => report := by
  intro report
  exact append_empty.symm

theorem add (violation : Violation) : OnlyAppends fun report => report.add violation := by
  intro report
  exact report.add_eq violation

theorem note (event : LogEvent) : OnlyAppends fun report => report.note event := by
  intro report
  exact report.note_eq event

variable {earlier later : Report → Report}

theorem comp (laterAppends : OnlyAppends later) (earlierAppends : OnlyAppends earlier) :
    OnlyAppends fun report => later (earlier report) := by
  intro report
  calc later (earlier report)
      = earlier report ++ later {} := laterAppends _
    _ = report ++ (earlier {} ++ later {}) := by rw [earlierAppends report, append_assoc]
    _ = report ++ later (earlier {}) := by rw [← laterAppends (earlier {})]

theorem ite {condition : Prop} [Decidable condition] (first : OnlyAppends earlier)
    (second : OnlyAppends later) :
    OnlyAppends fun report => if condition then earlier report else later report := by
  by_cases holds : condition
  · simpa only [if_pos holds] using first
  · simpa only [if_neg holds] using second

/-- A loop only appends if each of its passes does. -/
theorem foldl {α : Type} {pass : Report → α → Report}
    (passAppends : ∀ item, OnlyAppends fun report => pass report item) (items : List α) :
    OnlyAppends fun report => items.foldl pass report := by
  induction items with
  | nil => exact unchanged
  | cons head tail inductionHypothesis =>
      simp only [List.foldl_cons]
      exact inductionHypothesis.comp (passAppends head)

end OnlyAppends

end Report

open Report

/-! ### Replicas -/

theorem ReplicasRule.check_onlyAppends (rule : ReplicasRule) (deployment : Deployment) :
    OnlyAppends (rule.check deployment) := by
  unfold ReplicasRule.check
  cases deployment.replicas with
  | none => exact .add _
  | some replicas => exact .ite (.add _) .unchanged

/-! ### Strategy -/

namespace StrategyRule

section Bounds

variable {replicas count surge : Int32} {bound observed limit : Bound} {fault : BoundFault}

theorem resolveAt_of_ok (resolves : bound.resolve .up replicas = .ok count) (path : FieldPath)
    (report : Report) : resolveAt path replicas bound report = (some count, report) := by
  rw [resolveAt, resolves]

theorem resolveAt_of_error (fails : bound.resolve .up replicas = .error fault) (path : FieldPath)
    (report : Report) :
    resolveAt path replicas bound report = (none, report.note (skipped path fault)) := by
  rw [resolveAt, fails]

theorem checkMinSurge_onlyAppends : OnlyAppends (checkMinSurge replicas surge observed limit) := by
  unfold checkMinSurge
  cases resolved : limit.resolve .up replicas with
  | error fault =>
      simp only [resolveAt_of_error resolved]
      exact .note _
  | ok least =>
      simp only [resolveAt_of_ok resolved]
      exact .ite (.add _) .unchanged

theorem checkMaxSurge_onlyAppends : OnlyAppends (checkMaxSurge replicas surge observed limit) := by
  unfold checkMaxSurge
  cases resolved : limit.resolve .up replicas with
  | error fault =>
      simp only [resolveAt_of_error resolved]
      exact .note _
  | ok most =>
      simp only [resolveAt_of_ok resolved]
      exact .ite (.add _) .unchanged

theorem whenSet_onlyAppends {check : Bound → Report → Report}
    (checkAppends : ∀ bound, OnlyAppends (check bound)) (limit : Option Bound) :
    OnlyAppends (whenSet limit check) := by
  unfold whenSet
  cases limit with
  | none => exact .unchanged
  | some bound => exact checkAppends bound

theorem checkSurge_onlyAppends (limits : RollingUpdateRule) :
    OnlyAppends (checkSurge limits replicas observed) := by
  unfold checkSurge
  cases resolved : observed.resolve .up replicas with
  | error fault =>
      simp only [resolveAt_of_error resolved]
      exact .note _
  | ok surge =>
      simp only [resolveAt_of_ok resolved]
      exact .comp (whenSet_onlyAppends (fun _ => checkMaxSurge_onlyAppends) _)
        (whenSet_onlyAppends (fun _ => checkMinSurge_onlyAppends) _)

/-- Either bound may fail to resolve, or both; each failure is noted once. -/
theorem checkUnavailable_onlyAppends :
    OnlyAppends (checkUnavailable replicas observed limit) := by
  unfold checkUnavailable
  cases observedResolved : observed.resolve .up replicas with
  | error fault =>
      simp only [resolveAt_of_error observedResolved]
      cases limitResolved : limit.resolve .up replicas with
      | error other =>
          simp only [resolveAt_of_error limitResolved]
          exact .comp (.note _) (.note _)
      | ok most =>
          simp only [resolveAt_of_ok limitResolved]
          exact .note _
  | ok unavailable =>
      simp only [resolveAt_of_ok observedResolved]
      cases limitResolved : limit.resolve .up replicas with
      | error fault =>
          simp only [resolveAt_of_error limitResolved]
          exact .note _
      | ok most =>
          simp only [resolveAt_of_ok limitResolved]
          exact .ite (.add _) .unchanged

theorem checkBounds_onlyAppends (limits : RollingUpdateRule) (bounds : RollingUpdate) :
    OnlyAppends (checkBounds limits replicas bounds) := by
  unfold checkBounds
  exact .comp (whenSet_onlyAppends (fun _ => checkUnavailable_onlyAppends) _)
    (checkSurge_onlyAppends limits)

end Bounds

theorem check_onlyAppends (rule : StrategyRule) (deployment : Deployment) :
    OnlyAppends (rule.check deployment) := by
  unfold StrategyRule.check
  refine .ite (.add _) (.ite .unchanged ?_)
  cases deployment.strategy.bind DeploymentStrategy.rollingUpdate with
  | none => exact .add _
  | some bounds =>
      cases deployment.replicas with
      | none => exact .unchanged
      | some replicas =>
          cases rule.rollingUpdate with
          | none => exact .unchanged
          | some limits => exact checkBounds_onlyAppends limits bounds

end StrategyRule

/-! ### Resources -/

namespace ResourcesRule

theorem checkDeclared_onlyAppends (flags : Table Bool) (declared : Option (Table String))
    (path : FieldPath) : OnlyAppends (checkDeclared flags declared path) :=
  .foldl (fun _ => .ite (.add _) .unchanged) flags.entries

theorem check_onlyAppends (rule : ResourcesRule) (deployment : Deployment) :
    OnlyAppends (rule.check deployment) :=
  .foldl (fun _ => .comp (checkDeclared_onlyAppends _ _ _) (checkDeclared_onlyAppends _ _ _))
    deployment.containers

end ResourcesRule

/-! ### Sections of a policy -/

namespace PolicySpec

/-- The parts of a policy that ask something of a Deployment. -/
inductive Section where
  | replicas
  | strategy
  | resources
deriving DecidableEq, Repr

/-- The check that a section of the policy stands for. -/
def Section.check : Section → PolicySpec → Deployment → Report → Report
  | .replicas => checkReplicas
  | .strategy => checkStrategy
  | .resources => checkResources

/-- The policy with one of its sections and no other, under any weight and any selector. -/
def only (spec : PolicySpec) (weight : Int32) (selector : Option LabelSelector) :
    Section → PolicySpec
  | .replicas => { weight, selector, replicas := spec.replicas }
  | .strategy => { weight, selector, strategy := spec.strategy }
  | .resources => { weight, selector, resources := spec.resources }

/-- Validation finds nothing wrong with the Deployment. -/
def Accepts (spec : PolicySpec) (deployment : Deployment) : Prop :=
  (spec.validate deployment).violations = []

instance (spec : PolicySpec) (deployment : Deployment) : Decidable (spec.Accepts deployment) :=
  inferInstanceAs (Decidable (_ = _))

variable (spec : PolicySpec) (deployment : Deployment)

theorem checkReplicas_onlyAppends : OnlyAppends (spec.checkReplicas deployment) := by
  unfold checkReplicas
  cases spec.replicas with
  | none => exact .unchanged
  | some rule => exact rule.check_onlyAppends deployment

theorem checkStrategy_onlyAppends : OnlyAppends (spec.checkStrategy deployment) := by
  unfold checkStrategy
  cases spec.strategy with
  | none => exact .unchanged
  | some rule => exact rule.check_onlyAppends deployment

theorem checkResources_onlyAppends : OnlyAppends (spec.checkResources deployment) := by
  unfold checkResources
  cases spec.resources with
  | none => exact .unchanged
  | some rule => exact rule.check_onlyAppends deployment

theorem Section.check_onlyAppends (part : Section) : OnlyAppends (part.check spec deployment) := by
  cases part with
  | replicas => exact checkReplicas_onlyAppends spec deployment
  | strategy => exact checkStrategy_onlyAppends spec deployment
  | resources => exact checkResources_onlyAppends spec deployment

/-- Validation is what the sections find on their own, in order. -/
theorem validate_eq_append :
    spec.validate deployment = Section.replicas.check spec deployment {} ++
      Section.strategy.check spec deployment {} ++ Section.resources.check spec deployment {} := by
  calc spec.validate deployment
      = spec.checkStrategy deployment (spec.checkReplicas deployment {}) ++
          spec.checkResources deployment {} := checkResources_onlyAppends spec deployment _
    _ = _ := by rw [checkStrategy_onlyAppends spec deployment (spec.checkReplicas deployment {})]; rfl

section Membership

variable {spec : PolicySpec} {deployment : Deployment} {violation : Violation}

theorem mem_checkReplicas_iff :
    violation ∈ (spec.checkReplicas deployment {}).violations ↔
      ∃ rule, spec.replicas = some rule ∧ violation ∈ (rule.check deployment {}).violations := by
  unfold checkReplicas
  cases spec.replicas <;> simp

theorem mem_checkStrategy_iff :
    violation ∈ (spec.checkStrategy deployment {}).violations ↔
      ∃ rule, spec.strategy = some rule ∧ violation ∈ (rule.check deployment {}).violations := by
  unfold checkStrategy
  cases spec.strategy <;> simp

theorem mem_checkResources_iff :
    violation ∈ (spec.checkResources deployment {}).violations ↔
      ∃ rule, spec.resources = some rule ∧ violation ∈ (rule.check deployment {}).violations := by
  unfold checkResources
  cases spec.resources <;> simp

/-- A violation comes from one of the sections that the policy has. -/
theorem mem_validate_iff :
    violation ∈ (spec.validate deployment).violations ↔
      (∃ rule, spec.replicas = some rule ∧ violation ∈ (rule.check deployment {}).violations) ∨
      (∃ rule, spec.strategy = some rule ∧ violation ∈ (rule.check deployment {}).violations) ∨
      ∃ rule, spec.resources = some rule ∧ violation ∈ (rule.check deployment {}).violations := by
  rw [validate_eq_append]
  simp only [violations_append, List.mem_append, or_assoc, Section.check, mem_checkReplicas_iff,
    mem_checkStrategy_iff, mem_checkResources_iff]

end Membership

/-- A section alone finds what it finds among the others; weight and selector play no part. -/
theorem validate_only (weight : Int32) (selector : Option LabelSelector) (part : Section) :
    (spec.only weight selector part).validate deployment = part.check spec deployment {} := by
  cases part <;> rfl

theorem validate_of_isUnconstrained (unconstrained : spec.isUnconstrained = true) :
    spec.validate deployment = {} := by
  simp only [isUnconstrained, Bool.and_eq_true, Option.isNone_iff_eq_none] at unconstrained
  obtain ⟨⟨noReplicas, noStrategy⟩, noResources⟩ := unconstrained
  simp only [validate, checkReplicas, checkStrategy, checkResources, noReplicas, noStrategy,
    noResources]

theorem Section.forall_iff {condition : Section → Prop} :
    (∀ part, condition part) ↔
      condition .replicas ∧ condition .strategy ∧ condition .resources := by
  constructor
  · intro each
    exact ⟨each .replicas, each .strategy, each .resources⟩
  · rintro ⟨replicas, strategy, resources⟩ (_ | _ | _)
    · exact replicas
    · exact strategy
    · exact resources

/-- A section finds the same in front of any findings of others, and a policy finds what its
sections find one by one, in order, whatever the weights and selectors; so a Deployment is accepted
if and only if each section alone accepts it. Without sections nothing is found. -/
theorem sections_independent (spec : PolicySpec) (deployment : Deployment) :
    (∀ (part : Section) (report : Report),
      part.check spec deployment report = report ++ part.check spec deployment {}) ∧
    (∀ (weight : Section → Int32) (selector : Section → Option LabelSelector),
      let alone := fun part => spec.only (weight part) (selector part) part
      spec.validate deployment = (alone .replicas).validate deployment ++
          (alone .strategy).validate deployment ++ (alone .resources).validate deployment ∧
        (spec.Accepts deployment ↔ ∀ part, (alone part).Accepts deployment)) ∧
    (spec.isUnconstrained = true → spec.validate deployment = {}) := by
  refine ⟨fun part => part.check_onlyAppends spec deployment, fun weight selector => ?_,
    spec.validate_of_isUnconstrained deployment⟩
  simp only [Accepts, Section.forall_iff, validate_only, validate_eq_append spec,
    Report.violations_append, List.append_eq_nil_iff, and_assoc, and_self]

/-- A weight and a selector ask nothing of a Deployment, not even one without replicas. -/
theorem sections_independent_weightOnly :
    isUnconstrained { weight := 5, selector := some {} } = true ∧
      validate { weight := 5, selector := some {} } { spec := some { replicas := some 0 } } = {} := by
  have unconstrained : isUnconstrained { weight := 5, selector := some {} } = true := rfl
  exact ⟨unconstrained, (sections_independent _ _).2.2 unconstrained⟩

end PolicySpec

end AvailabilityGate
