import AvailabilityGate.Proofs.Decode.Acceptance
import AvailabilityGate.Schema.Basic

/-!
Owns how a decoder is compared with the schema of the same format: of the values that the schema
describes, those are decoded that fit what the decoder asks for beyond the schema. Where it asks for
nothing more, all of them fit.

Does not own values that the schema does not describe; some of them are decoded, too.
-/

namespace AvailabilityGate

namespace Schema

theorem Valid.ne_null {schema : Schema} {value : Json} (valid : schema.Valid value)
    (notNullable : schema.notes.nullable = false) : value ≠ .null := by
  rintro rfl
  cases schema <;> simp_all [Valid, AllowsNull, notes]

theorem validFields_iff {fields : List (String × Schema)} {value : Json} :
    ValidFields fields value ↔
      ∀ field ∈ fields, ∀ part, value.get? field.1 = some part → field.2.Valid part := by
  induction fields with
  | nil => simp [ValidFields]
  | cons head tail inductionHypothesis =>
      rw [ValidFields, inductionHypothesis, List.forall_mem_cons]

theorem mem_members_iff {entries : List (String × Json)} {name : String} {part : Json} :
    (name, part) ∈ Json.members entries ↔ (Json.obj entries).get? name = some part := by
  rw [Json.members, Table.mem_entries_iff, Json.get?]

end Schema

namespace Decode

variable {α β : Type} {decode : Decoder α} {schema : Schema} {Fits : Json → Prop}

/-- Of the values that the schema describes, null aside, the decoder takes those that fit. -/
def Follows (decode : Decoder α) (schema : Schema) (Fits : Json → Prop) : Prop :=
  ∀ ⦃value⦄, schema.Valid value → value ≠ .null → TakesIf decode value (Fits value)

theorem Follows.present (follows : Follows decode schema Fits)
    (notNullable : schema.notes.nullable = false) {value : Json} (valid : schema.Valid value) :
    TakesIf decode value (Fits value) :=
  follows valid (valid.ne_null notNullable)

theorem Follows.optional (follows : Follows decode schema Fits) (fitsNull : Fits .null)
    {value : Json} (valid : schema.Valid value) :
    TakesIf (optional decode) value (Fits value) := by
  by_cases isNull : value = .null
  · subst isNull
    exact takesIf_optional_null.congr (iff_of_true trivial fitsNull)
  · exact (follows valid isNull).optional isNull

/-! ### Plain values -/

theorem follows_text (notes : SchemaNotes) : Follows text (.text notes) fun _ => True := by
  intro value valid notNull medium document spells
  obtain ⟨_, isNull⟩ | ⟨given, rfl⟩ := valid
  · exact absurd isNull notNull
  · cases spells
    exact iff_of_true ⟨given, rfl⟩ trivial

theorem follows_bool (notes : SchemaNotes) : Follows bool (.bool notes) fun _ => True := by
  intro value valid notNull medium document spells
  obtain ⟨_, isNull⟩ | ⟨given, rfl⟩ := valid
  · exact absurd isNull notNull
  · cases spells
    exact iff_of_true ⟨given, rfl⟩ trivial

theorem follows_int32 (notes : SchemaNotes) : Follows int32 (.int32 notes) fun _ => True := by
  intro value valid notNull medium document spells
  obtain ⟨_, isNull⟩ | ⟨number, rfl, fits⟩ := valid
  · exact absurd isNull notNull
  · cases spells
    exact iff_of_true ⟨Int32.ofInt number, if_pos fits⟩ trivial

/-! ### Lists and tables -/

section Containers

variable (follows : Follows decode schema fun _ => True)
  (notNullable : schema.notes.nullable = false) (notes : SchemaNotes)
include follows notNullable

theorem Follows.list : Follows (list decode) (.list notes schema) fun _ => True := by
  intro value valid notNull
  obtain ⟨_, isNull⟩ | ⟨parts, rfl, partsValid⟩ := valid
  · exact absurd isNull notNull
  · have takesParts : ∀ part ∈ parts, TakesIf decode part True := fun part member =>
      follows.present notNullable (partsValid part member)
    exact (TakesIf.list takesParts).congr (by simp)

theorem Follows.table : Follows (table decode) (.table notes schema) fun _ => True := by
  intro value valid notNull
  obtain ⟨_, isNull⟩ | ⟨entries, rfl, partsValid⟩ := valid
  · exact absurd isNull notNull
  · have takesParts : ∀ name part, (Json.obj entries).get? name = some part →
        TakesIf decode part True := fun name part found =>
      follows.present notNullable (partsValid (name, part) (Schema.mem_members_iff.mpr found))
    exact (TakesIf.table takesParts).congr (by simp)

end Containers

/-! ### Records -/

namespace Record

variable {record : Record α} {fields : List (String × Schema)} {required : List String}
  {FieldFits : String → Json → Prop}

/-- The fields of the record are among those that the schema describes, and of the values described
for a field those are stored that fit. -/
def FollowsFields (record : Record α) (fields : List (String × Schema))
    (FieldFits : String → Json → Prop) : Prop :=
  ∀ name ∈ record.fields, ∃ schema, (name, schema) ∈ fields ∧
    ∀ ⦃part⦄, schema.Valid part → record.StoresIf name part (FieldFits name part)

theorem FollowsFields.stores (follows : record.FollowsFields fields FieldFits)
    {entries : List (String × Json)} (valid : Schema.ValidFields fields (.obj entries)) :
    ∀ name ∈ record.fields, ∀ part, (Json.obj entries).get? name = some part →
      record.StoresIf name part (FieldFits name part) := by
  intro name known part found
  obtain ⟨schema, described, stores⟩ := follows name known
  exact stores (Schema.validFields_iff.mp valid (name, schema) described part found)

section Conditional

variable (follows : record.FollowsFields fields FieldFits) (notes : SchemaNotes)
include follows

theorem follows_loose :
    Follows record.loose (.record notes fields required) (record.AllFit FieldFits) := by
  intro value valid notNull
  obtain ⟨_, isNull⟩ | ⟨entries, rfl, _, partsValid⟩ := valid
  · exact absurd isNull notNull
  · exact takesIf_loose (follows.stores partsValid)

theorem follows_strict
    (complete : ∀ name ∈ record.required, name ∈ record.fields ∧ name ∈ required) :
    Follows record.strict (.record notes fields required) (record.AllFit FieldFits) := by
  intro value valid notNull
  obtain ⟨_, isNull⟩ | ⟨entries, rfl, present, partsValid⟩ := valid
  · exact absurd isNull notNull
  · exact takesIf_strict (follows.stores partsValid) fun name member =>
      ⟨(complete name member).1, present name (complete name member).2⟩

end Conditional

section Unconditional

variable (followsAll : record.FollowsFields fields fun _ _ => True) (notes : SchemaNotes)
include followsAll

theorem follows_loose_all : Follows record.loose (.record notes fields required) fun _ => True :=
  fun _ valid notNull => (follows_loose followsAll notes valid notNull).congr
    (iff_of_true (fun _ _ _ _ => trivial) trivial)

theorem follows_strict_all
    (complete : ∀ name ∈ record.required, name ∈ record.fields ∧ name ∈ required) :
    Follows record.strict (.record notes fields required) fun _ => True :=
  fun _ valid notNull => (follows_strict followsAll notes complete valid notNull).congr
    (iff_of_true (fun _ _ _ _ => trivial) trivial)

end Unconditional

end Record

end Decode

end AvailabilityGate
