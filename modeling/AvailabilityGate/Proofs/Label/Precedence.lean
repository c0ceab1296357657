import AvailabilityGate.Proofs.Governing.Specification

/-!
Owns the fault that a malformed selector is reported with: the items of a written selector in the
order in which they are looked at, what offends in each of them, and which of several offences
counts.

Main statement: a selector stands for something if and only if it is well formed, what it stands
for is what it takes, and its fault is that of its first offending item; an operator that is not
known counts only if nothing else offends.
-/

namespace AvailabilityGate

open Fallible

/-! ### Items and what offends in them -/

/-- One of the things that are looked at in a written selector. -/
inductive SelectorItem where
  | key (text : String)
  | value (text : String)
  | operator (requirement : Requirement)

theorem Requirement.checkOperator_eq_error_iff {requirement : Requirement}
    {fault : SelectorFault} :
    requirement.checkOperator = .error fault ↔
      (requirement.operator ∈ valueOperators ∧ requirement.valueList = [] ∧
        .noValues requirement.operator requirement.key = fault) ∨
      (requirement.operator ∈ keyOperators ∧ requirement.valueList ≠ [] ∧
        .unwantedValues requirement.operator requirement.key = fault) := by
  unfold checkOperator valueOperators keyOperators
  cases valuesAre : requirement.valueList with
  | nil => split <;> simp_all
  | cons first more => split <;> simp_all

namespace SelectorItem

/-- The fault of an item by itself. -/
inductive Offends : SelectorItem → SelectorFault → Prop where
  | badKey {text fault} (refused : Label.checkKey text = .error fault) :
      Offends (.key text) (.badKey text fault)
  | badValue {text fault} (refused : Label.checkValue text = .error fault) :
      Offends (.value text) (.badValue text fault)
  | noValues {requirement : Requirement}
      (looksForValues : requirement.operator ∈ Requirement.valueOperators)
      (empty : requirement.valueList = []) :
      Offends (.operator requirement) (.noValues requirement.operator requirement.key)
  | unwantedValues {requirement : Requirement}
      (looksAtKey : requirement.operator ∈ Requirement.keyOperators)
      (nonempty : requirement.valueList ≠ []) :
      Offends (.operator requirement) (.unwantedValues requirement.operator requirement.key)

def Sound (item : SelectorItem) : Prop :=
  ∀ fault, ¬item.Offends fault

def check : SelectorItem → Except SelectorFault Unit
  | .key text => Label.liftKey text
  | .value text => Label.liftValue text
  | .operator requirement => requirement.checkOperator

theorem check_eq_error_iff {item : SelectorItem} {fault : SelectorFault} :
    item.check = .error fault ↔ item.Offends fault := by
  cases item with
  | key text =>
      rw [check, Label.liftKey, mapError_eq_error_iff]
      constructor
      · rintro ⟨cause, refused, rfl⟩
        exact .badKey refused
      · intro offends
        cases offends with
        | badKey refused => exact ⟨_, refused, rfl⟩
  | value text =>
      rw [check, Label.liftValue, mapError_eq_error_iff]
      constructor
      · rintro ⟨cause, refused, rfl⟩
        exact .badValue refused
      · intro offends
        cases offends with
        | badValue refused => exact ⟨_, refused, rfl⟩
  | operator requirement =>
      rw [check, Requirement.checkOperator_eq_error_iff]
      constructor
      · rintro (⟨looksForValues, empty, rfl⟩ | ⟨looksAtKey, nonempty, rfl⟩)
        · exact .noValues looksForValues empty
        · exact .unwantedValues looksAtKey nonempty
      · intro offends
        cases offends with
        | noValues looksForValues empty => exact .inl ⟨looksForValues, empty, rfl⟩
        | unwantedValues looksAtKey nonempty => exact .inr ⟨looksAtKey, nonempty, rfl⟩

theorem check_eq_ok_iff {item : SelectorItem} : item.check = .ok () ↔ item.Sound := by
  unfold Sound
  simp only [← check_eq_error_iff]
  cases item.check with
  | error fault => simp
  | ok _ => simp

end SelectorItem

namespace Requirement

/-- The key, then the operator with the number of values, then each of the values. -/
def items (requirement : Requirement) : List SelectorItem :=
  .key requirement.key :: .operator requirement :: requirement.valueList.map .value

theorem check_eq_forM {requirement : Requirement} :
    requirement.check = requirement.items.forM SelectorItem.check := by
  simp only [items, List.forM_eq_forM, List.forM_cons, List.forM_map]
  rfl

theorem criterion_eq_error_iff {requirement : Requirement} {fault : SelectorFault} :
    requirement.criterion = .error fault ↔
      (requirement.operator ∉ valueOperators ∧ requirement.operator ∉ keyOperators) ∧
        fault = .unknownOperator := by
  rw [← not_or, ← criterion_succeeds_iff]
  unfold Requirement.criterion
  split <;> simp [eq_comm]

end Requirement

namespace LabelSelector

/-- Each label by its key and its value, then the requirements. -/
def items (selector : LabelSelector) : List SelectorItem :=
  selector.labelList.flatMap (fun label => [.key label.1, .value label.2]) ++
    selector.requirements.flatMap Requirement.items

/-- What a malformed selector is reported with. -/
inductive Blames (selector : LabelSelector) : SelectorFault → Prop where
  | first {before item after fault} (order : selector.items = before ++ item :: after)
      (sound : ∀ earlier ∈ before, SelectorItem.Sound earlier)
      (offends : SelectorItem.Offends item fault) : Blames selector fault
  | unknownOperator (sound : ∀ item ∈ selector.items, item.Sound) {requirement}
      (member : requirement ∈ selector.requirements)
      (unknown : requirement.operator ∉ Requirement.valueOperators ∧
        requirement.operator ∉ Requirement.keyOperators) : Blames selector .unknownOperator

theorem check_eq_forM {selector : LabelSelector} :
    selector.check = selector.items.forM SelectorItem.check := by
  have eachLabel : ∀ label : String × String,
      checkLabel label = [SelectorItem.key label.1, .value label.2].forM SelectorItem.check := by
    intro label
    simp only [List.forM_eq_forM, List.forM_cons, List.forM_nil, bind_pure_unit]
    rfl
  rw [items, List.forM_eq_forM, List.forM_append, ← List.forM_eq_forM, forM_flatMap,
    forM_flatMap, LabelSelector.check]
  simp only [← eachLabel, ← Requirement.check_eq_forM]

theorem parse_eq_error_iff {selector : LabelSelector} {fault : SelectorFault} :
    selector.parse = .error fault ↔ selector.Blames fault := by
  have checked : selector.check = .ok () ↔ ∀ item ∈ selector.items, item.Sound := by
    rw [check_eq_forM, forM_eq_ok_iff]
    simp only [SelectorItem.check_eq_ok_iff]
  have refused : selector.check = .error fault ↔
      ∃ before item after, selector.items = before ++ item :: after ∧
        (∀ earlier ∈ before, earlier.Sound) ∧ item.Offends fault := by
    rw [check_eq_forM, forM_eq_error_iff]
    simp only [SelectorItem.check_eq_ok_iff, SelectorItem.check_eq_error_iff]
  rw [parse, bind_eq_error_iff, refused]
  constructor
  · rintro (⟨before, item, after, order, sound, offends⟩ | ⟨_, passes, fails⟩)
    · exact .first order sound offends
    · rcases bind_eq_error_iff.mp fails with notRead | ⟨_, _, impossible⟩
      · obtain ⟨requirement, member, fails⟩ := exists_of_mapM_eq_error notRead
        obtain ⟨unknown, rfl⟩ := Requirement.criterion_eq_error_iff.mp fails
        exact .unknownOperator (checked.mp passes) member unknown
      · cases impossible
  · intro blames
    cases blames with
    | first order sound offends => exact .inl ⟨_, _, _, order, sound, offends⟩
    | @unknownOperator sound requirement member unknown =>
        refine .inr ⟨(), checked.mpr sound, bind_eq_error_iff.mpr (.inl ?_)⟩
        cases reading : selector.requirements.mapM Requirement.criterion with
        | error cause =>
            obtain ⟨_, _, fails⟩ := exists_of_mapM_eq_error reading
            rw [(Requirement.criterion_eq_error_iff.mp fails).2]
        | ok asked =>
            obtain ⟨meaning, reads⟩ := mapM_succeeds_iff.mp ⟨asked, reading⟩ requirement member
            have fails := Requirement.criterion_eq_error_iff.mpr ⟨unknown, rfl⟩
            cases reads.symm.trans fails

/-- A selector stands for something if and only if it is well formed, and what it stands for holds
of the labels that it takes. Its labels are looked at in the order of their keys, and the fault is
that of the first offending item; the policy that the selector belongs to is reported with it. -/
theorem parse_wellFormed_takes_blames (selector : LabelSelector) :
    ((∃ criteria, selector.parse = .ok criteria) ↔ selector.WellFormed) ∧
      (∀ criteria, selector.parse = .ok criteria → ∀ labels,
        criteria.all (Criterion.holds labels) = true ↔ selector.Takes labels) ∧
      Ascending selector.labelList ∧
      (∀ fault, selector.parse = .error fault ↔ selector.Blames fault) ∧
      ∀ policy : Policy, policy.spec.selector = some selector → ∀ unset labels failure,
        policy.selects unset labels = .error failure ↔
          ∃ fault, selector.Blames fault ∧
            failure = .invalidSelector policy.qualifiedName fault.message := by
  refine ⟨parse_succeeds_iff, fun criteria parses labels => ?_, Table.ascending _,
    fun fault => parse_eq_error_iff, fun policy selectorIs unset labels failure => ?_⟩
  · rw [List.all_eq_true, ← criteria_hold_iff parses labels]
    simp only [Criterion.holds_iff]
  · rw [Policy.selects_of_some selectorIs, mapError_eq_error_iff]
    refine exists_congr fun fault => ?_
    rw [selects_eq_error_iff, parse_eq_error_iff, eq_comm]

/-- The first requirement has an unknown operator, the second lacks values. -/
def unruly : LabelSelector where
  matchExpressions := some [{ key := "tier", operator := "Near" }, { key := "app", operator := "In" }]

/-- The later fault is reported, not the unknown operator before it. -/
theorem parse_wellFormed_takes_blames_unruly :
    unruly.parse = .error (.noValues "In" "app") ∧ unruly.Blames (.noValues "In" "app") ∧
      Policy.selects .matchNone .empty { metadata := {}, spec := { selector := some unruly } } =
        .error (.invalidSelector "/" (SelectorFault.noValues "In" "app").message) := by
  have fails : unruly.parse = .error (.noValues "In" "app") := rfl
  obtain ⟨-, -, -, faultIs, reported⟩ := parse_wellFormed_takes_blames unruly
  have blamed := (faultIs _).mp fails
  exact ⟨fails, blamed, (reported _ rfl _ _ _).mpr ⟨_, blamed, rfl⟩⟩

end LabelSelector

end AvailabilityGate
