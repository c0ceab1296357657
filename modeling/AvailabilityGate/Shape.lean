import AvailabilityGate.Bound.Basic
import AvailabilityGate.Label.Selector
import AvailabilityGate.ObjectMeta

/-!
Owns the types of values that are looked at and not kept. A value of the wrong type is a failure
also where nothing is made of the value, so a shape says how far a reader looks: into every item of
a list, every entry of a table and every field that a record has, while members of other names are
passed over. Any field may be missing or null.

Does not own the shapes themselves; see `AvailabilityGate.Pod` and `AvailabilityGate.Deployment`.
-/

namespace AvailabilityGate

inductive Shape where
  | text
  | bool
  | int32
  | int64
  | time
  /-- A whole number or a text. -/
  | bound
  | selector
  | metadata
  | list (item : Shape)
  | table (entry : Shape)
  | record (title : String) (fields : List (String × Shape))

namespace Shape

open Decode

mutual

/-- Decodes a value of the shape and keeps nothing of it. -/
def look : Shape → Decoder Unit
  | .text => seen Decode.text
  | .bool => seen Decode.bool
  | .int32 => seen Decode.int32
  | .int64 => seen Decode.int64
  | .time => seen Decode.time
  | .bound => seen Bound.decode
  | .selector => seen LabelSelector.decode
  | .metadata => seen ObjectMeta.decode
  | .list item => seen (Decode.list (look item))
  | .table entry => seen (Decode.table (look entry))
  | .record title fields => (Record.checked title (looks fields)).loose

/-- What is looked for in each field of a record. -/
def looks : List (String × Shape) → List (String × Decoder Unit)
  | [] => []
  | (name, shape) :: rest => (name, seen (Decode.optional (look shape))) :: looks rest

end

/-- The fields of a record of which nothing is kept. -/
def unkept {α : Type} (fields : List (String × Shape)) : List (RecordField α) :=
  fields.map fun (name, shape) => .seen name (look shape)

end Shape

end AvailabilityGate
