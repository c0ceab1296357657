/-!
Owns violations: a field of an object, what it holds, and what is wrong with that.
-/

namespace AvailabilityGate

/-- The way from the root of an object to one of its fields. -/
structure FieldPath where
  segments : List String
deriving DecidableEq, Repr

namespace FieldPath

def child (path : FieldPath) (name : String) : FieldPath :=
  ⟨path.segments ++ [name]⟩

def render (path : FieldPath) : String :=
  ".".intercalate path.segments

/-- The field that all rules report below. -/
def spec : FieldPath := ⟨["spec"]⟩

end FieldPath

structure Violation where
  field : FieldPath
  /-- What the field holds, if it is set. -/
  value : Option String
  detail : String
deriving DecidableEq, Repr

namespace Violation

/-- A field with a value that is not accepted. -/
def invalid (field : FieldPath) (value detail : String) : Violation :=
  ⟨field, some value, detail⟩

/-- A field that has to be set. -/
def required (field : FieldPath) : Violation :=
  ⟨field, none, "is required"⟩

def render (violation : Violation) : String :=
  match violation.value with
  | some value =>
      violation.field.render ++ ": Invalid value: " ++ value ++ ": " ++ violation.detail
  | none => violation.field.render ++ ": " ++ violation.detail

/-- One message for several violations; a single one stands for itself. -/
def aggregate : List Violation → String
  | [] => ""
  | [only] => only.render
  | several => "[" ++ ", ".intercalate (several.map render) ++ "]"

end Violation

end AvailabilityGate
