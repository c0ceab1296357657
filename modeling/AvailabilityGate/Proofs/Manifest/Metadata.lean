import AvailabilityGate.ObjectMeta
import AvailabilityGate.Proofs.Decode.FieldList

/-!
Owns what is read of the metadata of an object. Each field is what the object says under one name;
members that are not known are passed over and members that are null count for nothing, so that
neither are written again. Moments are written by the clock of UTC, whatever zone they were given
in, and free-form parts by ascending name.

Main statements: metadata are what their fields are, whatever spells them; they survive being
written and read again.
-/

namespace AvailabilityGate

open Decode WrittenField

/-! ### Fields that may be null -/

section Optional

variable {α : Type} {name : String} {empty : α}

theorem sound_optionalText {get : α → Option String} {store : Option String → α → α}
    (nothing : get empty = none) : (optional name Decode.text .str get store).Sound empty :=
  sound_optional thorough_text uniform_text recovers_text (by simp) nothing

theorem sound_optionalBool {get : α → Option Bool} {store : Option Bool → α → α}
    (nothing : get empty = none) : (optional name bool .bool get store).Sound empty :=
  sound_optional thorough_bool uniform_bool recovers_bool (by simp) nothing

theorem sound_optionalInt64 {get : α → Option Int64} {store : Option Int64 → α → α}
    (nothing : get empty = none) : (optional name int64 (.int ·.toInt) get store).Sound empty :=
  sound_optional thorough_int64 uniform_int64 recovers_int64 (by simp) nothing

theorem sound_optionalTime {get : α → Option Time} {store : Option Time → α → α}
    (nothing : get empty = none) : (optional name time (.str ·.text) get store).Sound empty :=
  sound_optional thorough_time uniform_time recovers_time (by simp) nothing

theorem sound_optionalTable {get : α → Option (Table String)}
    {store : Option (Table String) → α → α} (nothing : get empty = none) :
    (optional name (table Decode.text) (Json.ofTable .str) get store).Sound empty :=
  sound_optional thorough_text.table uniform_text.table recovers_text.table
    (by simp [Json.ofTable]) nothing

/-- A list, if its items are sound. -/
theorem sound_optionalList {β : Type} {read : Decoder β} {encode : β → Json}
    {get : α → Option (List β)} {store : Option (List β) → α → α} (thorough : Thorough read)
    (uniform : Uniform read) (recovers : Recovers read encode) (nothing : get empty = none) :
    (optional name (list read) (fun values => .arr (values.map encode)) get store).Sound empty :=
  sound_optional thorough.list uniform.list recovers.list (by simp) nothing

end Optional

/-! ### The parts of metadata -/

theorem OwnerReference.fieldsKept : FieldsKept fields {} where
  sound := by
    simp only [fields, List.forall_mem_cons]
    exact ⟨sound_text, sound_optionalBool rfl, sound_optionalBool rfl, sound_text, sound_text,
      sound_text, by simp⟩
  distinct := by decide
  get_store := by simp [fields, WrittenField.text, WrittenField.optional, RecordField.optional]
  apart := by simp [fields, WrittenField.text, WrittenField.optional, RecordField.optional]
  ext left right same := by
    cases left
    cases right
    simpa [fields, WrittenField.text, WrittenField.optional, RecordField.optional] using same

theorem ManagedFields.fieldsKept : FieldsKept fields {} where
  sound := by
    simp only [fields, List.forall_mem_cons]
    exact ⟨sound_optionalText rfl, sound_optionalText rfl, sound_freeForm rfl,
      sound_optionalText rfl, sound_optionalText rfl, sound_optionalText rfl,
      sound_optionalTime rfl, by simp⟩
  distinct := by decide
  get_store := by simp [fields, WrittenField.freeForm, WrittenField.optional, RecordField.optional]
  apart := by simp [fields, WrittenField.freeForm, WrittenField.optional, RecordField.optional]
  ext left right same := by
    cases left
    cases right
    simpa [fields, WrittenField.freeForm, WrittenField.optional, RecordField.optional] using same

namespace ObjectMeta

theorem fieldsKept : FieldsKept fields {} where
  sound := by
    simp only [fields, List.forall_mem_cons]
    exact ⟨sound_optionalTable rfl, sound_optionalTime rfl, sound_optionalInt64 rfl,
      sound_optionalTime rfl, sound_optionalList thorough_text uniform_text recovers_text rfl,
      sound_optionalText rfl, sound_optionalInt64 rfl, sound_optionalTable rfl,
      sound_optionalList ManagedFields.fieldsKept.thorough_loose
        ManagedFields.fieldsKept.uniform_loose ManagedFields.fieldsKept.recovers_loose rfl,
      sound_optionalText rfl, sound_optionalText rfl,
      sound_optionalList OwnerReference.fieldsKept.thorough_loose
        OwnerReference.fieldsKept.uniform_loose OwnerReference.fieldsKept.recovers_loose rfl,
      sound_optionalText rfl, sound_optionalText rfl, sound_optionalText rfl, by simp⟩
  distinct := by decide
  get_store := by simp [fields, WrittenField.optional, RecordField.optional]
  apart := by simp [fields, WrittenField.optional, RecordField.optional]
  ext left right same := by
    cases left
    cases right
    simpa [fields, WrittenField.optional, RecordField.optional] using same

theorem thorough_decode : Thorough decode :=
  fieldsKept.thorough_loose

theorem uniform_decode : Uniform decode :=
  fieldsKept.uniform_loose

theorem recovers_decode : Recovers decode encode :=
  fieldsKept.recovers_loose

/-- The object has metadata that can be read, or none. -/
def ReadableIn (entries : List (String × Json)) : Prop :=
  ∀ part, (Json.obj entries).get? "metadata" = some part →
    ∃ metadata, ofJson decode part = .ok metadata

end ObjectMeta

end AvailabilityGate
