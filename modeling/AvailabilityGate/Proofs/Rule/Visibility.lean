import AvailabilityGate.Rule.Validation
import Mathlib.Data.Set.Defs

/-!
Owns what the rules can see of a Deployment: the replicas, the strategy, and of each container the
name and the names of the requests and limits that it declares.

Main statement: two Deployments in which the rules see the same are given the same report.
-/

namespace AvailabilityGate

/-- The names for which a container declares anything. -/
def declaredNames (declared : Option (Table String)) : Set String :=
  { name | ∃ table ∈ declared, name ∈ table.keys }

theorem mem_declaredNames_iff {declared : Option (Table String)} {name : String} :
    name ∈ declaredNames declared ↔ declared.any (fun table => table.contains name) = true := by
  show (∃ table ∈ declared, name ∈ table.keys) ↔ _
  cases declared with
  | none => simp
  | some table => simp [Table.contains_iff]

/-- The quantities that go with the names do not count. -/
theorem declaredNames_eq_of_keys {table other : Table String} (same : table.keys = other.keys) :
    declaredNames (some table) = declaredNames (some other) := by
  ext name
  rw [mem_declaredNames_iff, mem_declaredNames_iff, Option.any_some, Option.any_some,
    Table.contains_iff, Table.contains_iff, same]

namespace Container

/-- What the rules see of a container. -/
structure View where
  name : String
  requests : Set String
  limits : Set String

def view (container : Container) : View where
  name := container.name
  requests := declaredNames (container.resources.bind ResourceRequirements.requests)
  limits := declaredNames (container.resources.bind ResourceRequirements.limits)

end Container

/-- The rules see the same in both Deployments. -/
structure Deployment.LooksLike (left right : Deployment) : Prop where
  replicas : left.replicas = right.replicas
  strategy : left.strategy = right.strategy
  containers : left.containers.map Container.view = right.containers.map Container.view

variable {left right : Deployment}

theorem ReplicasRule.check_congr (alike : left.LooksLike right) (rule : ReplicasRule)
    (report : Report) : rule.check left report = rule.check right report := by
  unfold ReplicasRule.check
  rw [alike.replicas]

theorem StrategyRule.check_congr (alike : left.LooksLike right) (rule : StrategyRule)
    (report : Report) : rule.check left report = rule.check right report := by
  unfold StrategyRule.check StrategyRule.typeOf
  rw [alike.replicas, alike.strategy]

namespace ResourcesRule

theorem checkDeclared_congr {declared otherDeclared : Option (Table String)}
    (same : declaredNames declared = declaredNames otherDeclared)
    (flags : Table Bool)
    (path : FieldPath)
    (report : Report) :
    checkDeclared flags declared path report = checkDeclared flags otherDeclared path report := by
  have sameName : ∀ name, declared.any (fun table => table.contains name) =
      otherDeclared.any (fun table => table.contains name) := by
    intro name
    rw [Bool.eq_iff_iff, ← mem_declaredNames_iff, ← mem_declaredNames_iff, same]
  unfold checkDeclared
  simp only [sameName]

theorem checkContainer_congr {container other : Container} (same : container.view = other.view)
    (rule : ResourcesRule) (report : Report) :
    rule.checkContainer report container = rule.checkContainer report other := by
  obtain ⟨sameName, sameRequests, sameLimits⟩ := Container.View.mk.inj same
  unfold checkContainer containerField
  rw [sameName]
  simp only [checkDeclared_congr sameRequests, checkDeclared_congr sameLimits]

/-- The containers are gone through one by one, and of each no more than its view is looked at. -/
theorem foldl_checkContainer_congr {containers others : List Container}
    (same : containers.map Container.view = others.map Container.view)
    (rule : ResourcesRule) (report : Report) :
    containers.foldl rule.checkContainer report = others.foldl rule.checkContainer report := by
  induction containers generalizing others report with
  | nil =>
      rw [List.map_eq_nil_iff.mp same.symm]
  | cons head tail inductionHypothesis =>
      obtain ⟨otherHead, otherTail, rfl, sameHead, sameTail⟩ := List.map_eq_cons_iff.mp same.symm
      rw [List.foldl_cons, List.foldl_cons, checkContainer_congr sameHead.symm,
        inductionHypothesis sameTail.symm]

theorem check_congr (alike : left.LooksLike right) (rule : ResourcesRule) (report : Report) :
    rule.check left report = rule.check right report :=
  foldl_checkContainer_congr alike.containers rule report

end ResourcesRule

/-- What the rules report depends on nothing but what they can see. -/
theorem PolicySpec.validate_congr (alike : left.LooksLike right) (spec : PolicySpec) :
    spec.validate left = spec.validate right := by
  unfold PolicySpec.validate PolicySpec.checkReplicas PolicySpec.checkStrategy
    PolicySpec.checkResources
  simp only [ReplicasRule.check_congr alike, StrategyRule.check_congr alike,
    ResourcesRule.check_congr alike]

end AvailabilityGate
