import AvailabilityGate.Proofs.Rule.Isolation

/-!
Owns the lines that violations are rendered to, and the reason why no two of them are the same.

A rendered field does not tell where its segments end, and a line does not tell where a bound ends
that is quoted in it. But two lines that go on differently part at a point up to which they can be
read: at the section, at the comparison, at the end of a container name without a dot.

Main statement: one validation renders its violations to distinct lines, provided that the containers
have distinct names without dots. The names of resources may be any.
-/

namespace AvailabilityGate

namespace Text

/-- Neither text begins with the other. -/
def Apart (first second : String) : Prop :=
  ¬ first.toList <+: second.toList ∧ ¬ second.toList <+: first.toList

instance (first second : String) : Decidable (Apart first second) :=
  inferInstanceAs (Decidable (_ ∧ _))

variable {first second : String}

/-- Texts that are apart stay different, whatever follows. -/
theorem Apart.append_ne (apart : Apart first second) (rest otherRest : String) :
    first ++ rest ≠ second ++ otherRest := by
  intro same
  have sameCharacters : first.toList ++ rest.toList = second.toList ++ otherRest.toList := by
    rw [← String.toList_append, same, String.toList_append]
  have begins : second.toList <+: first.toList ++ rest.toList := ⟨_, sameCharacters.symm⟩
  cases List.prefix_or_prefix_of_prefix (List.prefix_append _ rest.toList) begins with
  | inl before => exact apart.1 before
  | inr before => exact apart.2 before

/-- The second name ends at its only dot, so that no other name can end there. -/
theorem eq_of_dotted_begins (undotted : '.' ∉ second.toList)
    (begins : (first ++ ".").toList <+: (second ++ ".").toList) : first = second := by
  obtain ⟨rest, same⟩ := begins
  have sameCharacters : second.toList ++ '.' :: [] = first.toList ++ '.' :: rest := by
    simpa [String.toList_append] using same.symm
  have sameName : second.toList = first.toList :=
    ((List.append_cons_inj_of_notMem undotted List.not_mem_nil).mp sameCharacters).1
  exact (String.toList_inj.mp sameName).symm

theorem apart_of_undotted (firstUndotted : '.' ∉ first.toList) (undotted : '.' ∉ second.toList)
    (differ : first ≠ second) : Apart (first ++ ".") (second ++ ".") :=
  ⟨fun begins => differ (eq_of_dotted_begins undotted begins),
    fun begins => differ (eq_of_dotted_begins firstUndotted begins).symm⟩

end Text

/-- What is wrong with a field is told behind the field. -/
theorem Violation.exists_render_eq (violation : Violation) :
    ∃ rest, violation.render = violation.field.render ++ rest := by
  unfold Violation.render
  cases violation.value with
  | none => exact ⟨_, String.append_assoc⟩
  | some value => exact ⟨_, by simp only [String.append_assoc]; rfl⟩

/-! ### Lines of the resources -/

namespace ResourceKind

variable {kind other : ResourceKind} {container otherContainer : Container}
  {resource otherResource : String}

theorem render_field (kind : ResourceKind) (container : Container) (resource : String) :
    (kind.field container resource).render = "spec.template.spec.containers." ++
      ((container.name ++ ".") ++ ("resources." ++ ((kind.name ++ ".") ++ resource))) := by
  show "spec" ++ "." ++ "template" ++ "." ++ "spec" ++ "." ++ "containers" ++ "." ++
    container.name ++ "." ++ "resources" ++ "." ++ kind.name ++ "." ++ resource = _
  simp only [String.append_assoc]
  rfl

/-- The line of a resource that is missing, cut where it can be read. -/
theorem render_required (kind : ResourceKind) (container : Container) (resource : String) :
    (Violation.required (kind.field container resource)).render =
      "spec.template.spec.containers." ++ ((container.name ++ ".") ++
        ("resources." ++ ((kind.name ++ ".") ++ (resource ++ ": is required")))) := by
  show (kind.field container resource).render ++ ": " ++ "is required" = _
  simp only [render_field, String.append_assoc]
  rfl

theorem apart_names (differ : kind ≠ other) : Text.Apart (kind.name ++ ".") (other.name ++ ".") := by
  cases kind <;> cases other <;> first | exact absurd rfl differ | decide

/-- The line tells container, kind and resource, if there are no dots in the names of containers. -/
theorem eq_of_render_eq (undotted : '.' ∉ container.name.toList)
    (otherUndotted : '.' ∉ otherContainer.name.toList)
    (same : (Violation.required (kind.field container resource)).render =
      (Violation.required (other.field otherContainer otherResource)).render) :
    container.name = otherContainer.name ∧ kind = other ∧ resource = otherResource := by
  rw [render_required, render_required, String.append_right_inj] at same
  -- a name is read up to its dot, and what it leaves is read in the same way
  have sameName : container.name = otherContainer.name := by
    by_contra differ
    exact (Text.apart_of_undotted undotted otherUndotted differ).append_ne _ _ same
  rw [sameName, String.append_right_inj, String.append_right_inj] at same
  have sameKind : kind = other := by
    by_contra differ
    exact (apart_names differ).append_ne _ _ same
  rw [sameKind, String.append_right_inj, String.append_left_inj] at same
  exact ⟨sameName, sameKind, same⟩

end ResourceKind

theorem ResourcesRule.nodup_lines (rule : ResourcesRule) {deployment : Deployment}
    (distinct : (deployment.containers.map Container.name).Nodup)
    (undotted : ∀ container ∈ deployment.containers, '.' ∉ container.name.toList) :
    ((rule.check deployment {}).violations.map Violation.render).Nodup := by
  rw [rule.check_eq]
  refine List.Nodup.map_on ?_ (rule.nodup_flatMap_findings distinct)
  intro first inFirst second inSecond same
  obtain ⟨container, member, found⟩ := List.mem_flatMap.mp inFirst
  obtain ⟨otherContainer, otherMember, otherFound⟩ := List.mem_flatMap.mp inSecond
  obtain ⟨kind, resource, _, _, rfl⟩ := mem_findings_iff.mp found
  obtain ⟨otherKind, otherResource, _, _, rfl⟩ := mem_findings_iff.mp otherFound
  obtain ⟨sameName, rfl, rfl⟩ := ResourceKind.eq_of_render_eq (undotted _ member)
    (undotted _ otherMember) same
  unfold ResourceKind.field
  rw [sameName]

/-! ### Lines of the strategy -/

namespace Comparison

variable {comparison other : Comparison} {rollout : Rollout} {violation otherViolation : Violation}

theorem render_violation (comparison : Comparison) (bound limit : Bound) :
    (comparison.violation bound limit).render =
      comparison.field.render ++ (": Invalid value: " ++ bound.display ++ ": " ++
        comparison.demand limit) := by
  show comparison.field.render ++ ": Invalid value: " ++ bound.display ++ ": " ++
    comparison.demand limit = _
  simp only [String.append_assoc]

/-- Too little and too much of one surge part after the surge, and not before. -/
theorem render_surge_ne (bound limit otherLimit : Bound) :
    (leastSurge.violation bound limit).render ≠ (mostSurge.violation bound otherLimit).render := by
  have apart : Text.Apart "should be at least " "should be at most " := by decide
  intro same
  rw [render_violation, render_violation] at same
  have sameDemand := (String.append_right_inj _).mp ((String.append_right_inj _).mp same)
  exact apart.append_ne _ _ sameDemand

/-- Surge and unavailability part in their fields. -/
theorem render_ne_of_field (apart : Text.Apart comparison.field.render other.field.render)
    (bound otherBound limit otherLimit : Bound) :
    (comparison.violation bound limit).render ≠ (other.violation otherBound otherLimit).render := by
  rw [render_violation, render_violation]
  exact apart.append_ne _ _

/-- In one rolling update, a line tells the comparison that failed. -/
theorem eq_of_render_eq (finds : comparison.Finds rollout violation)
    (otherFinds : other.Finds rollout otherViolation)
    (same : violation.render = otherViolation.render) : comparison = other := by
  obtain ⟨limit, _, _, _, _, rfl⟩ := finds
  obtain ⟨otherLimit, _, _, _, _, rfl⟩ := otherFinds
  cases comparison with
  | leastSurge =>
      cases other with
      | leastSurge => rfl
      | mostSurge => exact absurd same (render_surge_ne _ _ _)
      | mostUnavailable => exact absurd same (render_ne_of_field (by decide) _ _ _ _)
  | mostSurge =>
      cases other with
      | leastSurge => exact absurd same.symm (render_surge_ne _ _ _)
      | mostSurge => rfl
      | mostUnavailable => exact absurd same (render_ne_of_field (by decide) _ _ _ _)
  | mostUnavailable =>
      cases other with
      | leastSurge => exact absurd same (render_ne_of_field (by decide) _ _ _ _)
      | mostSurge => exact absurd same (render_ne_of_field (by decide) _ _ _ _)
      | mostUnavailable => rfl

end Comparison

/-- There is one line at most. -/
theorem ReplicasRule.nodup_lines (rule : ReplicasRule) (deployment : Deployment) :
    ((rule.check deployment {}).violations.map Violation.render).Nodup := by
  rw [rule.check_eq]
  cases rule.finding? deployment with
  | none => exact List.nodup_nil
  | some violation => exact List.nodup_singleton _

theorem StrategyRule.nodup_lines (rule : StrategyRule) (deployment : Deployment) :
    ((rule.check deployment {}).violations.map Violation.render).Nodup := by
  obtain ⟨found, decides⟩ := decides_exists rule deployment
  rw [decides.violations {}]
  cases decides with
  | otherType differs => exact List.nodup_singleton _
  | notRolling same other => exact List.nodup_nil
  | noRollingUpdate same rolling absent => exact List.nodup_singleton _
  | nothingToCompare same rolling present absent => exact List.nodup_nil
  | @compared rollout finding judges finds =>
      have inOrder : [Comparison.leastSurge, .mostSurge, .mostUnavailable].Nodup := by decide
      -- two of the violations were found by two comparisons, which their lines tell
      refine List.pairwise_map.mpr (List.pairwise_filterMap.mpr (inOrder.imp ?_))
      intro comparison other differ violation found otherViolation otherFound same
      exact differ (Comparison.eq_of_render_eq ((finds _ _).mp found) ((finds _ _).mp otherFound) same)

/-! ### Lines of a policy -/

namespace PolicySpec

variable {spec : PolicySpec} {deployment : Deployment} {violation : Violation}

/-- What the lines of a section begin with. -/
def Section.opening : Section → String
  | .replicas => "spec.replicas"
  | .strategy => "spec.strategy."
  | .resources => "spec.template.spec.containers."

theorem Section.apart_openings {part other : Section} (differ : part ≠ other) :
    Text.Apart part.opening other.opening := by
  cases part <;> cases other <;> first | exact absurd rfl differ | decide

def Section.lines (spec : PolicySpec) (deployment : Deployment) (part : Section) : List String :=
  (part.check spec deployment {}).violations.map Violation.render

theorem Section.field_begins {part : Section}
    (member : violation ∈ (part.check spec deployment {}).violations) :
    ∃ rest, violation.field.render = part.opening ++ rest := by
  cases part with
  | replicas =>
      obtain ⟨rule, _, found⟩ := mem_checkReplicas_iff.mp member
      rw [ReplicasRule.field_of_finding? (ReplicasRule.mem_check_iff.mp found)]
      exact ⟨"", rfl⟩
  | strategy =>
      obtain ⟨rule, _, found⟩ := mem_checkStrategy_iff.mp member
      cases StrategyRule.mem_check_iff.mp found with
      | otherType differs => exact ⟨"type", rfl⟩
      | noRollingUpdate same rolling absent => exact ⟨"rollingUpdate", rfl⟩
      | @compared rollout comparison _ judges finds =>
          obtain ⟨limit, _, _, _, _, rfl⟩ := finds
          cases comparison with
          | leastSurge => exact ⟨"rollingUpdate.maxSurge", rfl⟩
          | mostSurge => exact ⟨"rollingUpdate.maxSurge", rfl⟩
          | mostUnavailable => exact ⟨"rollingUpdate.maxUnavailable", rfl⟩
  | resources =>
      obtain ⟨rule, _, found⟩ := mem_checkResources_iff.mp member
      obtain ⟨container, _, kind, resource, _, _, rfl⟩ := ResourcesRule.mem_check_iff.mp found
      exact ⟨_, kind.render_field container resource⟩

theorem Section.line_begins {part : Section} {line : String}
    (member : line ∈ part.lines spec deployment) : ∃ rest, line = part.opening ++ rest := by
  obtain ⟨violation, found, rfl⟩ := List.mem_map.mp member
  obtain ⟨beyond, rendered⟩ := violation.exists_render_eq
  obtain ⟨rest, begins⟩ := field_begins found
  exact ⟨rest ++ beyond, by rw [rendered, begins, String.append_assoc]⟩

theorem Section.disjoint_lines {part other : Section} (differ : part ≠ other) :
    List.Disjoint (part.lines spec deployment) (other.lines spec deployment) := by
  intro line inPart inOther
  obtain ⟨rest, begins⟩ := line_begins inPart
  obtain ⟨otherRest, otherBegins⟩ := line_begins inOther
  exact (apart_openings differ).append_ne rest otherRest (begins.symm.trans otherBegins)

theorem Section.nodup_lines (part : Section)
    (distinct : (deployment.containers.map Container.name).Nodup)
    (undotted : ∀ container ∈ deployment.containers, '.' ∉ container.name.toList) :
    (part.lines spec deployment).Nodup := by
  cases part with
  | replicas =>
      show ((spec.checkReplicas deployment {}).violations.map Violation.render).Nodup
      unfold checkReplicas
      cases spec.replicas with
      | none => exact List.nodup_nil
      | some rule => exact rule.nodup_lines deployment
  | strategy =>
      show ((spec.checkStrategy deployment {}).violations.map Violation.render).Nodup
      unfold checkStrategy
      cases spec.strategy with
      | none => exact List.nodup_nil
      | some rule => exact rule.nodup_lines deployment
  | resources =>
      show ((spec.checkResources deployment {}).violations.map Violation.render).Nodup
      unfold checkResources
      cases spec.resources with
      | none => exact List.nodup_nil
      | some rule => exact rule.nodup_lines distinct undotted

theorem render_validate_eq (spec : PolicySpec) (deployment : Deployment) :
    (spec.validate deployment).violations.map Violation.render =
      [Section.replicas, .strategy, .resources].flatMap (Section.lines spec deployment) := by
  rw [validate_eq_append]
  simp [Section.lines]

theorem not_injective_render : ¬ Function.Injective FieldPath.render := by
  intro injective
  have same : FieldPath.mk ["spec.replicas"] = ⟨["spec", "replicas"]⟩ := injective rfl
  exact absurd same (by decide)

/-- Where containers have distinct names without dots, the violations of one validation are rendered
to distinct lines. For resources the line tells the container, the kind and the name, and for the
bounds of a rolling update it tells the comparison, even for two that quote the same surge; and this
although a rendered field does not tell the field. -/
theorem lines_identify (spec : PolicySpec) {deployment : Deployment}
    (distinct : (deployment.containers.map Container.name).Nodup)
    (undotted : ∀ container ∈ deployment.containers, '.' ∉ container.name.toList) :
    ((spec.validate deployment).violations.map Violation.render).Nodup ∧
    (∀ container ∈ deployment.containers, ∀ otherContainer ∈ deployment.containers,
      ∀ (kind other : ResourceKind) (resource otherResource : String),
        (Violation.required (kind.field container resource)).render =
          (Violation.required (other.field otherContainer otherResource)).render →
        container = otherContainer ∧ kind = other ∧ resource = otherResource) ∧
    (∀ (rollout : Rollout) (comparison other : Comparison) (violation otherViolation : Violation),
      comparison.Finds rollout violation → other.Finds rollout otherViolation →
      violation.render = otherViolation.render → comparison = other) ∧
    ¬ Function.Injective FieldPath.render := by
  refine ⟨?_, ?_, fun _ _ _ _ _ => Comparison.eq_of_render_eq, not_injective_render⟩
  · have inOrder : [Section.replicas, .strategy, .resources].Nodup := by decide
    rw [render_validate_eq, List.nodup_flatMap]
    exact ⟨fun part _ => part.nodup_lines distinct undotted, inOrder.imp Section.disjoint_lines⟩
  · intro container member otherContainer otherMember kind other resource otherResource same
    obtain ⟨sameName, sameKind, sameResource⟩ := ResourceKind.eq_of_render_eq
      (undotted _ member) (undotted _ otherMember) same
    exact ⟨List.inj_on_of_nodup_map distinct member otherMember sameName, sameKind, sameResource⟩

/-- A surge that can only be wrong, and three resources of which one has a dot in its name. -/
def demanding : PolicySpec where
  strategy := some {
    type := "RollingUpdate"
    rollingUpdate := some { minSurge := some (.count 3), maxSurge := some (.count 1) } }
  resources := some {
    requests := .ofList [("cpu", true), ("nvidia.com/gpu", true)], limits := .ofList [("cpu", true)] }

/-- Containers of the given names that declare nothing. -/
def undeclaring (names : List String) : Deployment where
  spec := some {
    replicas := some 4
    strategy := some {
      type := some "RollingUpdate", rollingUpdate := some { maxSurge := some (.count 2) } }
    template := { spec := some { containers := names.map fun name => { name } } } }

/-- The surge is too small and too large, and each of two containers lacks the three resources. -/
theorem lines_identify_demanding :
    ((undeclaring ["app", "sidecar"]).containers.map Container.name).Nodup ∧
      (∀ container ∈ (undeclaring ["app", "sidecar"]).containers,
        '.' ∉ container.name.toList) ∧
      ((demanding.validate (undeclaring ["app", "sidecar"])).violations.map
        Violation.render).Nodup ∧
      (demanding.validate (undeclaring ["app", "sidecar"])).violations.length = 8 := by
  have distinct : ((undeclaring ["app", "sidecar"]).containers.map Container.name).Nodup := by
    decide
  have undotted : ∀ container ∈ (undeclaring ["app", "sidecar"]).containers,
      '.' ∉ container.name.toList := by
    decide
  exact ⟨distinct, undotted, (lines_identify demanding distinct undotted).1, by decide +kernel⟩

/-- A dotted name may go on where another name has its resources. -/
example :
    (Violation.required (ResourceKind.requests.field { name := "app" }
        "b.resources.requests.cpu")).render =
      (Violation.required (ResourceKind.requests.field { name := "app.resources.requests.b" }
        "cpu")).render := by
  decide

end PolicySpec

end AvailabilityGate
