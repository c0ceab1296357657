import AvailabilityGate.Decode.Record

/-!
Owns records that are given by a list of their fields, each with its name, the decoder of its value
and the place where it is kept. Such a record is decoded by looking its members up in the list, and
written by going through the list.

Does not own the ways in which records are decoded; see `AvailabilityGate.Decode.Record`.
-/

namespace AvailabilityGate.Decode

/-- A field of a record: how its value is read, and where it is kept. -/
structure RecordField (α : Type) where
  name : String
  {Value : Type}
  read : Decoder Value
  store : Value → α → α

namespace RecordField

variable {α β : Type}

/-- A field that may be null. -/
def optional (name : String) (read : Decoder β) (store : Option β → α → α) : RecordField α where
  name
  read := Decode.optional read
  store

/-- A field that is looked at and not kept; it may be null. -/
def seen (name : String) (look : Decoder β) : RecordField α where
  name
  read := Decode.optional look
  store _ record := record

end RecordField

/-- The record with these fields. -/
def Record.ofFields {α : Type} (title : String) (fields : List (RecordField α)) (empty : α) :
    Record α where
  title
  fields := fields.map RecordField.name
  empty
  set name medium document record :=
    match fields.find? fun field => field.name = name with
    | some field => do return field.store (← field.read medium document) record
    | none => .ok record

/-- A field that is written again: what the record says there, and how that is put. -/
structure WrittenField (α : Type) extends RecordField α where
  get : α → Value
  write : Value → Option Json

namespace WrittenField

variable {α β : Type}

/-- A field that may be null, and that is written only when it has a value. -/
def optional (name : String) (read : Decoder β) (encode : β → Json) (get : α → Option β)
    (store : Option β → α → α) : WrittenField α where
  toRecordField := .optional name read store
  get
  write := Option.map encode

/-- A text that is always written, and that is empty when it is null. -/
def text (name : String) (get : α → String) (store : String → α → α) : WrittenField α where
  name
  Value := String
  read medium document := (Option.getD · "") <$> Decode.optional Decode.text medium document
  store
  get
  write value := some (.str value)

/-- A value of any type, which is not written when it is null. -/
def freeForm (name : String) (get : α → FreeForm) (store : FreeForm → α → α) : WrittenField α where
  name
  Value := FreeForm
  read := FreeForm.decode
  store
  get
  write value := if value = .null then none else some value.value

end WrittenField

/-- The members that are written for a record, in the order of its fields. -/
def writtenMembers {α : Type} (fields : List (WrittenField α)) (record : α) :
    List (String × Json) :=
  fields.filterMap fun field =>
    (field.write (field.get record)).map fun value => (field.name, value)

end AvailabilityGate.Decode
