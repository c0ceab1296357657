import AvailabilityGate.Proofs.Governing.Specification

/-!
Owns which labels of an object the choice of its policy looks at: those whose keys stand in a
selector of a candidate, be it among the selector's labels or in one of its requirements.

Main statement: two objects that agree on these labels are given the same policy, or the same
fault.
-/

namespace AvailabilityGate

/-- The tables hold the same at each of the keys, or hold nothing there. -/
def Table.AgreeOn {α : Type} (keys : List String) (left right : Table α) : Prop :=
  ∀ key ∈ keys, left.get? key = right.get? key

theorem Table.AgreeOn.mono {α : Type} {keys fewer : List String} {left right : Table α}
    (agree : Table.AgreeOn keys left right) (among : fewer ⊆ keys) :
    Table.AgreeOn fewer left right :=
  fun key member => agree key (among member)

variable {labels otherLabels : Table String}

theorem Requirement.takes_congr {requirement : Requirement}
    (same : labels.get? requirement.key = otherLabels.get? requirement.key) :
    requirement.Takes labels ↔ requirement.Takes otherLabels := by
  unfold Requirement.Takes
  rw [same]

namespace LabelSelector

/-- The keys that a selector mentions. -/
def mentions (selector : LabelSelector) : List String :=
  selector.labelList.map Prod.fst ++ selector.requirements.map Requirement.key

theorem takes_congr {selector : LabelSelector}
    (agree : Table.AgreeOn selector.mentions labels otherLabels) :
    selector.Takes labels ↔ selector.Takes otherLabels := by
  have sameAtLabel : ∀ label ∈ selector.labelList,
      labels.get? label.1 = otherLabels.get? label.1 := by
    intro label member
    exact agree label.1 (List.mem_append_left _ (List.mem_map_of_mem member))
  have sameAtRequirement : ∀ requirement ∈ selector.requirements,
      labels.get? requirement.key = otherLabels.get? requirement.key := by
    intro requirement member
    exact agree requirement.key (List.mem_append_right _ (List.mem_map_of_mem member))
  unfold LabelSelector.Takes
  apply and_congr
  · exact forall₂_congr fun label member => by rw [sameAtLabel label member]
  · exact forall₂_congr fun requirement member =>
      Requirement.takes_congr (sameAtRequirement requirement member)

theorem selects_congr {selector : LabelSelector}
    (agree : Table.AgreeOn selector.mentions labels otherLabels) :
    selector.selects labels = selector.selects otherLabels := by
  cases answer : selector.selects labels with
  | error fault => exact (selects_eq_error_iff.mpr (selects_eq_error_iff.mp answer)).symm
  | ok taken =>
      obtain ⟨wellFormed, takes⟩ := selects_eq_ok_iff.mp answer
      exact (selects_eq_ok_iff.mpr ⟨wellFormed, takes.trans (takes_congr agree)⟩).symm

end LabelSelector

namespace Policy

/-- The keys that the selector of a policy mentions. -/
def mentions (policy : Policy) : List String :=
  (policy.spec.selector.map LabelSelector.mentions).getD []

variable {unset : UnsetSelector}

theorem selects_congr {policy : Policy}
    (agree : Table.AgreeOn policy.mentions labels otherLabels) :
    policy.selects unset labels = policy.selects unset otherLabels := by
  cases selectorIs : policy.spec.selector with
  | none => rw [selects_of_none selectorIs, selects_of_none selectorIs]
  | some selector =>
      have onSelector : Table.AgreeOn selector.mentions labels otherLabels := by
        rw [mentions, selectorIs] at agree
        exact agree
      rw [selects_of_some selectorIs, selects_of_some selectorIs,
        LabelSelector.selects_congr onSelector]

theorem choose_congr {policy : Policy}
    (agree : Table.AgreeOn policy.mentions labels otherLabels) (current : Option Policy) :
    choose unset labels current policy = choose unset otherLabels current policy := by
  unfold choose
  rw [selects_congr agree]

/-- The choice among candidates looks at no labels but those that one of their selectors mentions. -/
theorem resolve_congr {candidates : List Policy}
    (agree : Table.AgreeOn (candidates.flatMap mentions) labels otherLabels) :
    resolve unset labels candidates = resolve unset otherLabels candidates := by
  unfold resolve
  -- The induction is on the candidates that are left, with any policy chosen so far.
  generalize (none : Option Policy) = current
  induction candidates generalizing current with
  | nil => rfl
  | cons head tail inductionHypothesis =>
      rw [List.flatMap_cons] at agree
      have onHead : Table.AgreeOn head.mentions labels otherLabels :=
        agree.mono (List.subset_append_left _ _)
      have onTail : Table.AgreeOn (tail.flatMap mentions) labels otherLabels :=
        agree.mono (List.subset_append_right _ _)
      rw [List.foldlM_cons, List.foldlM_cons, choose_congr onHead]
      exact bind_congr fun next => inductionHypothesis onTail next

end Policy

end AvailabilityGate
