import AvailabilityGate.Decode.Field
import AvailabilityGate.Proofs.Decode.FreeForm
import Mathlib.Data.List.Nodup

/-!
Owns what is read and written of a record that is given by a list of its fields. Each field is what
the object says under its name, whatever the other fields say, as long as the fields keep their
values apart.

Does not own the records themselves.

Main statements: a record is read as what its fields are, whatever spells it, and it survives being
written and read again.
-/

namespace AvailabilityGate.Decode

open Fallible

variable {α β : Type}

/-! ### One field -/

namespace WrittenField

/-- What is written of the field is read as it was, and what is not written is what the record says
that has no fields. -/
structure Sound (field : WrittenField α) (empty : α) : Prop where
  thorough : Thorough field.read
  uniform : Uniform field.read
  readsBack : ∀ {value part}, field.write value = some part → ofJson field.read part = .ok value
  unwritten : ∀ {value}, field.write value = none → value = field.get empty

theorem sound_optional {name : String} {read : Decoder β} {encode : β → Json}
    {get : α → Option β} {store : Option β → α → α} {empty : α} (thorough : Thorough read)
    (uniform : Uniform read) (recovers : Recovers read encode)
    (notNull : ∀ value, encode value ≠ .null) (nothing : get empty = none) :
    (optional name read encode get store).Sound empty where
  thorough := thorough.optional
  uniform := uniform.optional
  readsBack written := recovers.optional notNull written (Document.spells_ofJson _)
  unwritten unwritten := (Option.map_eq_none_iff.mp unwritten).trans nothing.symm

theorem sound_text {name : String} {get : α → String} {store : String → α → α} {empty : α} :
    (text name get store).Sound empty where
  thorough := thorough_text.optional.map _
  uniform := uniform_text.optional.map _
  readsBack written := by
    cases written
    rfl
  unwritten unwritten := by cases unwritten

theorem sound_freeForm {name : String} {get : α → FreeForm} {store : FreeForm → α → α} {empty : α}
    (nothing : get empty = .null) : (freeForm name get store).Sound empty where
  thorough := FreeForm.thorough_decode
  uniform := FreeForm.uniform_decode
  readsBack written := by
    simp only [freeForm] at written
    split at written
    · cases written
    · cases written
      exact FreeForm.recovers_decode.ofJson _
  unwritten unwritten := by
    simp only [freeForm] at unwritten
    split at unwritten
    · next isNull => exact isNull.trans nothing.symm
    · cases unwritten

end WrittenField

/-! ### All fields -/

/-- The fields keep their values apart, each of them soundly, and together they are the record. -/
structure FieldsKept (fields : List (WrittenField α)) (empty : α) : Prop where
  sound : ∀ field ∈ fields, field.Sound empty
  distinct : (fields.map fun field => field.name).Nodup
  get_store : ∀ field ∈ fields, ∀ value record, field.get (field.store value record) = value
  apart : fields.Pairwise fun field other =>
    (∀ value record, other.get (field.store value record) = other.get record) ∧
      ∀ value record, field.get (other.store value record) = field.get record
  ext : ∀ left right, (∀ field ∈ fields, field.get left = field.get right) → left = right

/-- The object has this record, field by field. -/
def FieldsAre (fields : List (WrittenField α)) (empty : α) (entries : List (String × Json))
    (record : α) : Prop :=
  ∀ field ∈ fields, FieldIs field.read (field.get empty) entries field.name (field.get record)

/-- The record that has these fields. -/
abbrev writtenRecord (title : String) (fields : List (WrittenField α)) (empty : α) : Record α :=
  .ofFields title (fields.map WrittenField.toRecordField) empty

/-- A record with a value in each field that suits the field. -/
theorem exists_record {fields : List (WrittenField α)}
    {Suits : (field : WrittenField α) → field.Value → Prop}
    (get_store : ∀ field ∈ fields, ∀ value record, field.get (field.store value record) = value)
    (apart : fields.Pairwise fun field other =>
      ∀ value record, other.get (field.store value record) = other.get record)
    (each : ∀ field ∈ fields, ∃ value, Suits field value) (start : α) :
    ∃ record, ∀ field ∈ fields, Suits field (field.get record) := by
  induction fields with
  | nil => exact ⟨start, by simp⟩
  | cons head tail inductionHypothesis =>
      obtain ⟨headStore, tailStore⟩ := List.forall_mem_cons.mp get_store
      obtain ⟨headApart, tailApart⟩ := List.pairwise_cons.mp apart
      obtain ⟨⟨value, suits⟩, tailEach⟩ := List.forall_mem_cons.mp each
      obtain ⟨record, tailSuits⟩ := inductionHypothesis tailStore tailApart tailEach
      refine ⟨head.store value record, List.forall_mem_cons.mpr ⟨?_, fun other later => ?_⟩⟩
      · rwa [headStore]
      · rw [headApart other later]
        exact tailSuits other later

namespace FieldsKept

variable {title : String} {fields : List (WrittenField α)} {empty : α}
  (kept : FieldsKept fields empty)
include kept

theorem eq_of_name {field other : WrittenField α} (isField : field ∈ fields)
    (isOther : other ∈ fields) (same : field.name = other.name) : field = other :=
  List.inj_on_of_nodup_map kept.distinct isField isOther same

theorem get_store_of_ne {field other : WrittenField α} (isField : field ∈ fields)
    (isOther : other ∈ fields) (different : other.name ≠ field.name) (value : field.Value)
    (record : α) : other.get (field.store value record) = other.get record := by
  obtain ⟨before, after, rfl⟩ := List.append_of_mem isField
  obtain ⟨_, last, between⟩ := List.pairwise_append.mp kept.apart
  obtain ⟨later, _⟩ := List.pairwise_cons.mp last
  rcases List.mem_append.mp isOther with isBefore | isAfter
  · exact (between other isBefore field List.mem_cons_self).2 value record
  · rcases List.mem_cons.mp isAfter with rfl | isAfter
    · exact absurd rfl different
    · exact (later other isAfter).1 value record

/-! ### Reading -/

theorem set_eq {field : WrittenField α} (isField : field ∈ fields) (medium : Medium)
    (document : Document) (record : α) :
    (writtenRecord title fields empty).set field.name medium document record =
      (do return field.store (← field.read medium document) record) := by
  have found : fields.find? (fun other => other.name = field.name) = some field := by
    obtain ⟨other, isFirst⟩ : ∃ other, fields.find? (fun other => other.name = field.name) =
        some other := Option.isSome_iff_exists.mp (List.find?_isSome.mpr ⟨field, isField, by simp⟩)
    have sameName : other.name = field.name := by simpa using List.find?_some isFirst
    rw [isFirst, kept.eq_of_name (List.mem_of_find?_eq_some isFirst) isField sameName]
  have first : (fields.map WrittenField.toRecordField).find? (fun other => other.name = field.name) =
      some field.toRecordField := by
    rw [List.find?_map, Option.map_eq_some_iff]
    exact ⟨field, found, rfl⟩
  simp only [Record.ofFields, first]

omit kept in
theorem mem_fields {name : String} :
    name ∈ (writtenRecord title fields empty).fields ↔ ∃ field ∈ fields, field.name = name := by
  simp [Record.ofFields]

theorem keeps {entries : List (String × Json)} {result : α}
    (fieldsAre : FieldsAre fields empty entries result) (medium : Medium) :
    (writtenRecord title fields empty).Keeps medium entries fun names stored =>
      ∀ field ∈ fields,
        field.get stored = if field.name ∈ names then field.get result else field.get empty := by
  intro name part document names before known found spelled holds
  obtain ⟨field, isField, rfl⟩ := mem_fields.mp known
  have decoded : field.read medium document = .ok (field.get result) :=
    ((kept.sound field isField).uniform spelled _).mpr
      ((fieldIs_of_found found).mp (fieldsAre field isField))
  refine ⟨field.store (field.get result) before, ?_, fun other isOther => ?_⟩
  · rw [kept.set_eq isField, decoded]
    rfl
  · by_cases same : other.name = field.name
    · obtain rfl := kept.eq_of_name isOther isField same
      rw [kept.get_store other isOther, if_pos List.mem_cons_self]
    · rw [kept.get_store_of_ne isField isOther same, holds other isOther]
      simp [same]

variable {medium : Medium} {document : Document} {entries : List (String × Json)} {result : α}

theorem loose_eq (fieldsAre : FieldsAre fields empty entries result)
    (spells : document.Spells (.obj entries)) :
    (writtenRecord title fields empty).loose medium document = .ok result := by
  have keeps : (writtenRecord title fields empty).Keeps medium entries _ :=
    kept.keeps fieldsAre medium
  obtain ⟨value, names, succeeds, holds, areFields⟩ :=
    Record.loose_of_spells keeps spells (fun field _ => by simp [Record.ofFields])
  have same : value = result := by
    refine kept.ext _ _ fun field isField => ?_
    have known : field.name ∈ (writtenRecord title fields empty).fields :=
      mem_fields.mpr ⟨field, isField, rfl⟩
    have stored : field.name ∈ names ↔ ((Json.obj entries).get? field.name).isSome :=
      (areFields _).trans (and_iff_right known)
    simp only [holds field isField, stored, (fieldsAre field isField).ite_eq]
  rw [succeeds, same]

theorem exists_fieldsAre (spells : document.Spells (.obj entries))
    (decodes : Decodes (writtenRecord title fields empty).loose medium document) :
    ∃ result, FieldsAre fields empty entries result := by
  have stores : ∀ name ∈ (writtenRecord title fields empty).fields, ∀ part,
      (Json.obj entries).get? name = some part →
        (writtenRecord title fields empty).StoresIf name part
          (∀ field ∈ fields, field.name = name → ∃ value, ofJson field.read part = .ok value) := by
    intro name known part _ medium document before spelled
    obtain ⟨field, isField, rfl⟩ := mem_fields.mp known
    rw [kept.set_eq isField, ((kept.sound field isField).uniform.takesIf part).stores spelled]
    constructor
    · rintro decoded other isOther same
      exact kept.eq_of_name isOther isField same ▸ decoded
    · exact fun all => all field isField rfl
  have allFit := (Record.takesIf_loose stores spells).mp decodes
  refine exists_record kept.get_store (kept.apart.imp And.left) (fun field isField => ?_) empty
  exact exists_fieldIs _ fun part found =>
    allFit field.name (mem_fields.mpr ⟨field, isField, rfl⟩) part found field isField rfl

theorem loose_eq_ok_iff (spells : document.Spells (.obj entries)) :
    (writtenRecord title fields empty).loose medium document = .ok result ↔
      FieldsAre fields empty entries result := by
  refine ⟨fun decoded => ?_, fun fieldsAre => kept.loose_eq fieldsAre spells⟩
  obtain ⟨given, fieldsAre⟩ := kept.exists_fieldsAre spells ⟨result, decoded⟩
  cases (kept.loose_eq fieldsAre spells).symm.trans decoded
  exact fieldsAre

theorem uniform_loose : Uniform (writtenRecord title fields empty).loose := by
  intro value medium document spells result
  cases value with
  | obj entries =>
      rw [kept.loose_eq_ok_iff spells, ofJson,
        kept.loose_eq_ok_iff (Document.spells_ofJson (.obj entries))]
  | _ =>
      cases spells
      simp [ofJson, Document.ofJson, Record.loose]

theorem thorough_loose : Thorough (writtenRecord title fields empty).loose := by
  refine Record.thorough_loose fun name known medium document before after succeeds => ?_
  obtain ⟨field, isField, rfl⟩ := mem_fields.mp known
  rw [kept.set_eq isField] at succeeds
  exact (kept.sound field isField).thorough.of_bind succeeds

/-! ### Writing -/

theorem get?_writtenMembers (record : α) {field : WrittenField α} (isField : field ∈ fields) :
    (Json.obj (writtenMembers fields record)).get? field.name = field.write (field.get record) := by
  have distinct : ((writtenMembers fields record).map Prod.fst).Nodup := by
    refine List.pairwise_map.mpr
      (List.Pairwise.filterMap _ ?_ (List.pairwise_map.mp kept.distinct))
    intro left right different first isFirst second isSecond
    obtain ⟨_, _, rfl⟩ := Option.map_eq_some_iff.mp isFirst
    obtain ⟨_, _, rfl⟩ := Option.map_eq_some_iff.mp isSecond
    exact different
  rw [Json.get?_obj, lookup_reverse distinct]
  ext part
  rw [lookup_eq_some_iff_mem distinct, writtenMembers, List.mem_filterMap]
  constructor
  · rintro ⟨other, isOther, written⟩
    obtain ⟨_, isPart, same⟩ := Option.map_eq_some_iff.mp written
    obtain ⟨sameName, rfl⟩ := Prod.mk.inj same
    exact kept.eq_of_name isOther isField sameName ▸ isPart
  · intro written
    exact ⟨field, isField, by rw [written]; rfl⟩

theorem fieldsAre_writtenMembers (record : α) :
    FieldsAre fields empty (writtenMembers fields record) record := by
  intro field isField
  have found := kept.get?_writtenMembers record isField
  cases written : field.write (field.get record) with
  | none =>
      exact (fieldIs_of_missing (found.trans written)).mpr
        ((kept.sound field isField).unwritten written)
  | some part =>
      exact (fieldIs_of_found (found.trans written)).mpr
        ((kept.sound field isField).readsBack written)

theorem recovers_loose :
    Recovers (writtenRecord title fields empty).loose fun record =>
      .obj (writtenMembers fields record) :=
  fun _ _ record spells => kept.loose_eq (kept.fieldsAre_writtenMembers record) spells

end FieldsKept

end AvailabilityGate.Decode
