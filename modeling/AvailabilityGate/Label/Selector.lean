import AvailabilityGate.Decode.Record
import AvailabilityGate.Label.Syntax

/-!
Owns label selectors: their written form, the checks that it has to pass, and the selector that a
well-formed one stands for.
-/

namespace AvailabilityGate

/-- One requirement of a selector as it is written. -/
structure Requirement where
  key : String := ""
  operator : String := ""
  values : Option (List String) := none
deriving DecidableEq

/-- A selector as it is written. -/
structure LabelSelector where
  matchLabels : Option (Table String) := none
  matchExpressions : Option (List Requirement) := none
deriving DecidableEq

/-- What a selector asks of the labels of an object. -/
inductive Criterion where
  | equals (key value : String)
  | oneOf (key : String) (values : List String)
  | noneOf (key : String) (values : List String)
  | present (key : String)
  | absent (key : String)
deriving DecidableEq, Repr

/-- Why a written selector stands for nothing. -/
inductive SelectorFault where
  | badKey (key : String) (fault : Label.KeyFault)
  | badValue (value : String) (fault : Label.ValueFault)
  | noValues (operator key : String)
  | unwantedValues (operator key : String)
  | unknownOperator
deriving DecidableEq, Repr

def SelectorFault.message : SelectorFault → String
  | .badKey key fault => fault.message key
  | .badValue value fault => fault.message value
  | .noValues operator key =>
      "values must be non-empty for operator " ++ operator ++ " on key " ++ Text.quoted key
  | .unwantedValues operator key =>
      "values must be empty for operator " ++ operator ++ " on key " ++ Text.quoted key
  | .unknownOperator => "failed to parse value as expression: Invalid expression operator"

namespace Criterion

def Holds (labels : Table String) : Criterion → Prop
  | .equals key value => labels.get? key = some value
  | .oneOf key values => ∃ value, labels.get? key = some value ∧ value ∈ values
  | .noneOf key values => ∀ value, labels.get? key = some value → value ∉ values
  | .present key => ∃ value, labels.get? key = some value
  | .absent key => labels.get? key = none

def holds (labels : Table String) : Criterion → Bool
  | .equals key value => labels.get? key == some value
  | .oneOf key values => (labels.get? key).any fun value => values.contains value
  | .noneOf key values => !(labels.get? key).any fun value => values.contains value
  | .present key => (labels.get? key).isSome
  | .absent key => (labels.get? key).isNone

theorem holds_iff (labels : Table String) (criterion : Criterion) :
    criterion.holds labels = true ↔ criterion.Holds labels := by
  cases criterion with
  | equals key value => simp [holds, Holds]
  | oneOf key values => cases found : labels.get? key <;> simp [holds, Holds, found]
  | noneOf key values => cases found : labels.get? key <;> simp [holds, Holds, found]
  | present key => cases found : labels.get? key <;> simp [holds, Holds, found]
  | absent key => cases found : labels.get? key <;> simp [holds, Holds, found]

end Criterion

namespace Label

def liftKey (key : String) : Except SelectorFault Unit :=
  (checkKey key).mapError (.badKey key)

def liftValue (value : String) : Except SelectorFault Unit :=
  (checkValue value).mapError (.badValue value)

end Label

namespace Requirement

def valueList (requirement : Requirement) : List String :=
  requirement.values.getD []

/-- Whether the operator has the values that it needs. -/
def checkOperator (requirement : Requirement) : Except SelectorFault Unit :=
  match requirement.operator, requirement.valueList with
  | "In", [] => .error (.noValues "In" requirement.key)
  | "NotIn", [] => .error (.noValues "NotIn" requirement.key)
  | "Exists", _ :: _ => .error (.unwantedValues "Exists" requirement.key)
  | "DoesNotExist", _ :: _ => .error (.unwantedValues "DoesNotExist" requirement.key)
  | _, _ => .ok ()

/-- The syntax of a requirement; an unknown operator passes. -/
def check (requirement : Requirement) : Except SelectorFault Unit := do
  Label.liftKey requirement.key
  requirement.checkOperator
  requirement.valueList.forM Label.liftValue

def criterion (requirement : Requirement) : Except SelectorFault Criterion :=
  match requirement.operator with
  | "In" => .ok (.oneOf requirement.key requirement.valueList)
  | "NotIn" => .ok (.noneOf requirement.key requirement.valueList)
  | "Exists" => .ok (.present requirement.key)
  | "DoesNotExist" => .ok (.absent requirement.key)
  | _ => .error .unknownOperator

def record : Decode.Record Requirement where
  title := "LabelSelectorRequirement"
  fields := ["key", "operator", "values"]
  empty := {}
  set
    | "key", medium, document, requirement => do
        let key ← Decode.optional Decode.text medium document
        return { requirement with key := key.getD "" }
    | "operator", medium, document, requirement => do
        let operator ← Decode.optional Decode.text medium document
        return { requirement with operator := operator.getD "" }
    | "values", medium, document, requirement => do
        let values ← Decode.optional (Decode.list Decode.text) medium document
        return { requirement with values }
    | _, _, _, requirement => .ok requirement

def encode (requirement : Requirement) : Json :=
  .obj ([("key", .str requirement.key), ("operator", .str requirement.operator)] ++
    Json.optional "values" (fun values => .arr (values.map .str)) requirement.values)

end Requirement

namespace LabelSelector

def labelList (selector : LabelSelector) : List (String × String) :=
  (selector.matchLabels.getD .empty).entries

def requirements (selector : LabelSelector) : List Requirement :=
  selector.matchExpressions.getD []

def checkLabel (label : String × String) : Except SelectorFault Unit := do
  Label.liftKey label.1
  Label.liftValue label.2

/-- The syntax of a selector: its labels by key, then its requirements in order. -/
def check (selector : LabelSelector) : Except SelectorFault Unit := do
  selector.labelList.forM checkLabel
  selector.requirements.forM Requirement.check

/-- The criteria that a well-formed selector stands for. Operators are looked at last. -/
def parse (selector : LabelSelector) : Except SelectorFault (List Criterion) := do
  selector.check
  let criteria ← selector.requirements.mapM Requirement.criterion
  return selector.labelList.map (fun label => .equals label.1 label.2) ++ criteria

/-- Whether a well-formed selector takes an object with the given labels. -/
def selects (selector : LabelSelector) (labels : Table String) :
    Except SelectorFault Bool := do
  let criteria ← selector.parse
  return criteria.all (Criterion.holds labels)

def record : Decode.Record LabelSelector where
  title := "LabelSelector"
  fields := ["matchLabels", "matchExpressions"]
  empty := {}
  set
    | "matchLabels", medium, document, selector => do
        let matchLabels ← Decode.optional (Decode.table Decode.text) medium document
        return { selector with matchLabels }
    | "matchExpressions", medium, document, selector => do
        let matchExpressions ←
          Decode.optional (Decode.list Requirement.record.loose) medium document
        return { selector with matchExpressions }
    | _, _, _, selector => .ok selector

def decode : Decoder LabelSelector :=
  record.loose

def encode (selector : LabelSelector) : Json :=
  .obj (Json.optional "matchExpressions"
      (fun requirements => .arr (requirements.map Requirement.encode))
      selector.matchExpressions ++
    Json.optional "matchLabels" (Json.ofTable .str) selector.matchLabels)

end LabelSelector

end AvailabilityGate
