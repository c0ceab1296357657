import AvailabilityGate.Label.Selector
import AvailabilityGate.Proofs.Fallible

/-!
Owns the meaning of label selectors, said of their written form: when one is well formed, and which
labels it takes.

Main statement: a selector gives an answer if and only if it is well formed, and the answer is
whether it takes the labels.
-/

namespace AvailabilityGate

open Fallible

namespace Requirement

/-- The operators that look for values. -/
def valueOperators : List String := ["In", "NotIn"]

/-- The operators that look at the key alone. -/
def keyOperators : List String := ["Exists", "DoesNotExist"]

/-- The operator is known, and has values if and only if it looks for some. -/
def OperatorFits (requirement : Requirement) : Prop :=
  (requirement.operator ∈ valueOperators ∧ requirement.valueList ≠ []) ∨
    (requirement.operator ∈ keyOperators ∧ requirement.valueList = [])

structure WellFormed (requirement : Requirement) : Prop where
  key : Label.checkKey requirement.key = .ok ()
  operator : requirement.OperatorFits
  values : ∀ value ∈ requirement.valueList, Label.checkValue value = .ok ()

/-- What a requirement asks of the labels of an object. -/
def Takes (labels : Table String) (requirement : Requirement) : Prop :=
  match requirement.operator with
  | "In" => ∃ value, labels.get? requirement.key = some value ∧ value ∈ requirement.valueList
  | "NotIn" => ∀ value, labels.get? requirement.key = some value → value ∉ requirement.valueList
  | "Exists" => ∃ value, labels.get? requirement.key = some value
  | "DoesNotExist" => labels.get? requirement.key = none
  | _ => False

/-- What stands for a requirement holds of the labels that the requirement takes. -/
theorem criterion_holds_iff
    {requirement : Requirement}
    {meaning : Criterion}
    (stands : requirement.criterion = .ok meaning)
    (labels : Table String) :
    meaning.Holds labels ↔ requirement.Takes labels := by
  unfold Requirement.criterion at stands
  split at stands
  case h_5 => cases stands
  all_goals
    next operatorIs =>
      cases stands
      unfold Takes
      rw [operatorIs]
      rfl

theorem criterion_succeeds_iff {requirement : Requirement} :
    (∃ meaning, requirement.criterion = .ok meaning) ↔
      requirement.operator ∈ valueOperators ∨ requirement.operator ∈ keyOperators := by
  unfold Requirement.criterion valueOperators keyOperators
  split <;> simp_all

theorem checkOperator_eq_ok_iff {requirement : Requirement} :
    requirement.checkOperator = .ok () ↔
      (requirement.operator ∈ valueOperators → requirement.valueList ≠ []) ∧
        (requirement.operator ∈ keyOperators → requirement.valueList = []) := by
  unfold checkOperator valueOperators keyOperators
  cases valuesAre : requirement.valueList with
  | nil => split <;> simp_all
  | cons first more => split <;> simp_all

theorem operatorFits_iff {requirement : Requirement} :
    requirement.OperatorFits ↔
      requirement.checkOperator = .ok () ∧ ∃ meaning, requirement.criterion = .ok meaning := by
  rw [checkOperator_eq_ok_iff, criterion_succeeds_iff]
  have notBoth : requirement.operator ∈ valueOperators → requirement.operator ∉ keyOperators := by
    simp only [valueOperators, keyOperators, List.mem_cons, List.not_mem_nil, or_false]
    intro known
    rcases known with isIn | isNotIn
    · simp [isIn]
    · simp [isNotIn]
  constructor
  · intro fits
    rcases fits with ⟨looksForValues, nonempty⟩ | ⟨looksAtKey, empty⟩
    · exact ⟨⟨fun _ => nonempty, fun both => absurd both (notBoth looksForValues)⟩,
        .inl looksForValues⟩
    · exact ⟨⟨fun both => absurd looksAtKey (notBoth both), fun _ => empty⟩, .inr looksAtKey⟩
  · intro checked
    obtain ⟨⟨needsValues, needsNone⟩, known⟩ := checked
    rcases known with looksForValues | looksAtKey
    · exact .inl ⟨looksForValues, needsValues looksForValues⟩
    · exact .inr ⟨looksAtKey, needsNone looksAtKey⟩

theorem check_eq_ok_iff {requirement : Requirement} :
    requirement.check = .ok () ↔
      Label.checkKey requirement.key = .ok () ∧ requirement.checkOperator = .ok () ∧
        ∀ value ∈ requirement.valueList, Label.checkValue value = .ok () := by
  unfold Requirement.check Label.liftKey
  rw [check_bind_eq_ok_iff, check_bind_eq_ok_iff, mapError_eq_ok_iff, forM_eq_ok_iff]
  simp only [Label.liftValue, mapError_eq_ok_iff]

theorem wellFormed_iff {requirement : Requirement} :
    requirement.WellFormed ↔
      requirement.check = .ok () ∧ ∃ meaning, requirement.criterion = .ok meaning := by
  rw [check_eq_ok_iff]
  constructor
  · intro wellFormed
    obtain ⟨passes, known⟩ := operatorFits_iff.mp wellFormed.operator
    exact ⟨⟨wellFormed.key, passes, wellFormed.values⟩, known⟩
  · intro checked
    obtain ⟨⟨key, passes, values⟩, known⟩ := checked
    exact ⟨key, operatorFits_iff.mpr ⟨passes, known⟩, values⟩

end Requirement

namespace LabelSelector

structure WellFormed (selector : LabelSelector) : Prop where
  labels : ∀ label ∈ selector.labelList,
    Label.checkKey label.1 = .ok () ∧ Label.checkValue label.2 = .ok ()
  requirements : ∀ requirement ∈ selector.requirements, requirement.WellFormed

/-- The labels hold each of the selector's own labels and all that its requirements ask for. -/
def Takes (labels : Table String) (selector : LabelSelector) : Prop :=
  (∀ label ∈ selector.labelList, labels.get? label.1 = some label.2) ∧
    ∀ requirement ∈ selector.requirements, requirement.Takes labels

theorem checkLabel_eq_ok_iff {label : String × String} :
    checkLabel label = .ok () ↔
      Label.checkKey label.1 = .ok () ∧ Label.checkValue label.2 = .ok () := by
  unfold checkLabel Label.liftKey Label.liftValue
  rw [check_bind_eq_ok_iff, mapError_eq_ok_iff, mapError_eq_ok_iff]

theorem check_eq_ok_iff {selector : LabelSelector} :
    selector.check = .ok () ↔
      (∀ label ∈ selector.labelList,
        Label.checkKey label.1 = .ok () ∧ Label.checkValue label.2 = .ok ()) ∧
      ∀ requirement ∈ selector.requirements, requirement.check = .ok () := by
  unfold LabelSelector.check
  rw [check_bind_eq_ok_iff, forM_eq_ok_iff, forM_eq_ok_iff]
  simp only [checkLabel_eq_ok_iff]

theorem parse_eq_ok_iff {selector : LabelSelector} {criteria : List Criterion} :
    selector.parse = .ok criteria ↔
      selector.check = .ok () ∧
        ∃ asked, selector.requirements.mapM Requirement.criterion = .ok asked ∧
          criteria = selector.labelList.map (fun label => .equals label.1 label.2) ++ asked := by
  unfold LabelSelector.parse
  rw [check_bind_eq_ok_iff, bind_eq_ok_iff]
  refine and_congr_right fun _ => exists_congr fun asked => and_congr_right fun _ => ?_
  exact ⟨fun same => (Except.ok.inj same).symm, fun same => congrArg Except.ok same.symm⟩

/-- A selector stands for something if and only if it is well formed. -/
theorem parse_succeeds_iff {selector : LabelSelector} :
    (∃ criteria, selector.parse = .ok criteria) ↔ selector.WellFormed := by
  constructor
  · intro succeeds
    obtain ⟨criteria, parses⟩ := succeeds
    obtain ⟨passes, asked, stands, _⟩ := parse_eq_ok_iff.mp parses
    obtain ⟨labelsPass, requirementsPass⟩ := check_eq_ok_iff.mp passes
    refine ⟨labelsPass, fun requirement member => ?_⟩
    exact Requirement.wellFormed_iff.mpr
      ⟨requirementsPass requirement member, mapM_succeeds_iff.mp ⟨asked, stands⟩ requirement member⟩
  · intro wellFormed
    have eachFits := fun requirement member =>
      Requirement.wellFormed_iff.mp (wellFormed.requirements requirement member)
    obtain ⟨asked, stands⟩ := mapM_succeeds_iff.mpr fun requirement member =>
      (eachFits requirement member).2
    have passes : selector.check = .ok () :=
      check_eq_ok_iff.mpr ⟨wellFormed.labels, fun requirement member =>
        (eachFits requirement member).1⟩
    exact ⟨_, parse_eq_ok_iff.mpr ⟨passes, asked, stands, rfl⟩⟩

/-- What a selector stands for holds of the labels that the selector takes. -/
theorem criteria_hold_iff
    {selector : LabelSelector}
    {criteria : List Criterion}
    (parses : selector.parse = .ok criteria)
    (labels : Table String) :
    (∀ criterion ∈ criteria, criterion.Holds labels) ↔ selector.Takes labels := by
  obtain ⟨_, asked, stands, rfl⟩ := parse_eq_ok_iff.mp parses
  have eachStands := mapM_succeeds_iff.mp ⟨asked, stands⟩
  have askedOf := mem_iff_of_mapM_eq_ok stands
  rw [List.forall_mem_append, List.forall_mem_map]
  refine and_congr_right fun _ => ⟨fun askedHold requirement member => ?_,
    fun requirementsTake criterion member => ?_⟩
  · obtain ⟨meaning, reads⟩ := eachStands requirement member
    exact (Requirement.criterion_holds_iff reads labels).mp
      (askedHold meaning ((askedOf meaning).mpr ⟨requirement, member, reads⟩))
  · obtain ⟨requirement, source, reads⟩ := (askedOf criterion).mp member
    exact (Requirement.criterion_holds_iff reads labels).mpr (requirementsTake requirement source)

/-- A selector gives an answer if and only if it is well formed, and the answer is whether it takes
the labels. -/
theorem selects_eq_ok_iff {selector : LabelSelector} {labels : Table String} {taken : Bool} :
    selector.selects labels = .ok taken ↔
      selector.WellFormed ∧ (taken = true ↔ selector.Takes labels) := by
  unfold LabelSelector.selects
  rw [bind_eq_ok_iff, ← parse_succeeds_iff]
  have allHold : ∀ criteria : List Criterion, criteria.all (Criterion.holds labels) = true ↔
      ∀ criterion ∈ criteria, criterion.Holds labels := by
    intro criteria
    simp only [List.all_eq_true, Criterion.holds_iff]
  constructor
  · intro given
    obtain ⟨criteria, parses, answers⟩ := given
    cases Except.ok.inj answers
    exact ⟨⟨criteria, parses⟩, (allHold criteria).trans (criteria_hold_iff parses labels)⟩
  · intro given
    obtain ⟨⟨criteria, parses⟩, answers⟩ := given
    refine ⟨criteria, parses, congrArg Except.ok (Bool.eq_iff_iff.mpr ?_)⟩
    exact (allHold criteria).trans ((criteria_hold_iff parses labels).trans answers.symm)

/-- The fault of a selector is the one with which it is parsed; the labels play no part in it. -/
theorem selects_eq_error_iff
    {selector : LabelSelector}
    {labels : Table String}
    {fault : SelectorFault} :
    selector.selects labels = .error fault ↔ selector.parse = .error fault := by
  unfold LabelSelector.selects
  cases selector.parse with
  | error reason =>
      show Except.error reason = Except.error fault ↔ _
      simp
  | ok criteria =>
      show Except.ok _ = Except.error fault ↔ _
      simp

end LabelSelector

end AvailabilityGate
