import AvailabilityGate.Bound.Basic
import AvailabilityGate.Proofs.Decode.FieldList

/-!
Owns which values a decoder takes, said part by part and without the decoder: a list by its items, a
table by its members, a record by what may stand under each of its names.

Does not own what is kept of such a value.

Main statement: a record that is given by a list of its fields takes the objects in which every
field fits.
-/

namespace AvailabilityGate

open Fallible

namespace Decode

variable {α β : Type} {decode : Decoder α} {Fits : Json → Prop}

/-- The decoder takes the values that fit, and no others. -/
def Accepts (decode : Decoder α) (Fits : Json → Prop) : Prop :=
  ∀ value, TakesIf decode value (Fits value)

/-- A value that fits, or none. -/
def NullOr (Fits : Json → Prop) (value : Json) : Prop :=
  value = .null ∨ Fits value

/-- A list of which every item fits. -/
def EachItem (Fits : Json → Prop) (value : Json) : Prop :=
  ∃ parts, value = .arr parts ∧ ∀ part ∈ parts, Fits part

/-- An object of which every member fits under its name. -/
def EachMember (Fits : String → Json → Prop) (value : Json) : Prop :=
  ∃ entries, value = .obj entries ∧
    ∀ name part, (Json.obj entries).get? name = some part → Fits name part

namespace Accepts

theorem congr {Same : Json → Prop} (accepts : Accepts decode Fits)
    (same : ∀ value, Fits value ↔ Same value) : Accepts decode Same :=
  fun value => (accepts value).congr (same value)

theorem seen (accepts : Accepts decode Fits) : Accepts (seen decode) Fits := by
  intro value medium document spells
  rw [← accepts value spells, Decodes, Decodes, Decode.seen]
  exact succeeds_store_iff

theorem optional (accepts : Accepts decode Fits) :
    Accepts (optional decode) (NullOr Fits) := by
  intro value
  by_cases isNull : value = .null
  · subst isNull
    exact takesIf_optional_null.congr (by simp [NullOr])
  · exact ((accepts value).optional isNull).congr (by simp [NullOr, isNull])

theorem map (accepts : Accepts decode Fits) (convert : α → β) :
    Accepts (fun medium document => convert <$> decode medium document) Fits := by
  intro value medium document spells
  rw [← accepts value spells]
  constructor
  · rintro ⟨_, converted⟩
    obtain ⟨result, decoded, _⟩ := map_eq_ok_iff.mp converted
    exact ⟨result, decoded⟩
  · rintro ⟨result, decoded⟩
    exact ⟨convert result, map_eq_ok_iff.mpr ⟨result, decoded, rfl⟩⟩

theorem list (accepts : Accepts decode Fits) : Accepts (list decode) (EachItem Fits) := by
  intro value
  cases value with
  | arr parts => exact (TakesIf.list fun part _ => accepts part).congr (by simp [EachItem])
  | _ =>
      intro medium document spells
      cases spells
      simp [Decodes, Decode.list, EachItem]

theorem table (accepts : Accepts decode Fits) :
    Accepts (table decode) (EachMember fun _ => Fits) := by
  intro value
  cases value with
  | obj entries =>
      exact (TakesIf.table fun _ part _ => accepts part).congr (by simp [EachMember])
  | _ =>
      intro medium document spells
      cases spells
      simp [Decodes, Decode.table, EachMember]

end Accepts

theorem Record.accepts_loose {record : Record α} {FieldFits : String → Json → Prop}
    (stores : ∀ name ∈ record.fields, ∀ part, record.StoresIf name part (FieldFits name part))
    (others : ∀ name, name ∉ record.fields → ∀ part, FieldFits name part) :
    Accepts record.loose (EachMember FieldFits) := by
  intro value
  cases value with
  | obj entries =>
      refine (takesIf_loose fun name known part _ => stores name known part).congr ?_
      constructor
      · intro allFit
        refine ⟨entries, rfl, fun name part found => ?_⟩
        by_cases known : name ∈ record.fields
        · exact allFit name known part found
        · exact others name known part
      · rintro ⟨_, same, fits⟩ name _ part found
        cases same
        exact fits name part found
  | _ =>
      intro medium document spells
      cases spells
      simp [Decodes, loose, EachMember]

/-! ### Records by their fields -/

/-- What may stand under a name, where it is listed for some names; under others, anything may. -/
def FitsNamed : List (String × (Json → Prop)) → String → Json → Prop
  | [], _, _ => True
  | (field, Fits) :: rest, name, value =>
      if field = name then Fits value else FitsNamed rest name value

theorem fitsNamed_of_not_mem {parts : List (String × (Json → Prop))} {name : String}
    (other : name ∉ parts.map Prod.fst) (value : Json) : FitsNamed parts name value := by
  induction parts with
  | nil => trivial
  | cons head tail inductionHypothesis =>
      simp only [List.map_cons, List.mem_cons, not_or] at other
      obtain ⟨differs, later⟩ := other
      rw [FitsNamed, if_neg (Ne.symm differs)]
      exact inductionHypothesis later

/-- The field takes the values that may stand under its name. -/
structure Reads (field : RecordField α) (part : String × (Json → Prop)) : Prop where
  name_eq : field.name = part.1
  accepts : Accepts field.read part.2

theorem reads_optional {name : String} {store : Option β → α → α} {read : Decoder β}
    (accepts : Accepts read Fits) : Reads (.optional name read store) (name, NullOr Fits) where
  name_eq := rfl
  accepts := accepts.optional

theorem reads_seen {name : String} {look : Decoder β} (accepts : Accepts look Fits) :
    Reads (.seen name look : RecordField α) (name, NullOr Fits) where
  name_eq := rfl
  accepts := accepts.optional

section Fields

variable {fields : List (RecordField α)} {parts : List (String × (Json → Prop))}

theorem names_eq (reads : List.Forall₂ Reads fields parts) :
    fields.map RecordField.name = parts.map Prod.fst := by
  induction reads with
  | nil => rfl
  | cons head _ inductionHypothesis =>
      rw [List.map_cons, List.map_cons, head.name_eq, inductionHypothesis]

/-- A field is stored if its value fits, whatever stands under other names. -/
theorem storesIf_ofFields (reads : List.Forall₂ Reads fields parts) (title : String) (empty : α)
    (name : String) (value : Json) :
    (Record.ofFields title fields empty).StoresIf name value (FitsNamed parts name value) := by
  intro medium document before spells
  simp only [Record.ofFields]
  induction reads with
  | nil => simp [FitsNamed]
  | @cons field part _ _ head _ inductionHypothesis =>
      obtain ⟨nameEq, accepts⟩ := head
      rw [List.find?_cons, FitsNamed]
      by_cases same : part.1 = name
      · rw [if_pos same]
        simp only [nameEq, same, decide_true]
        exact (accepts value).stores spells _
      · rw [if_neg same]
        simp only [nameEq, same, decide_false]
        exact inductionHypothesis

theorem accepts_ofFields (reads : List.Forall₂ Reads fields parts) (title : String) (empty : α) :
    Accepts (Record.ofFields title fields empty).loose (EachMember (FitsNamed parts)) :=
  Record.accepts_loose (fun name _ value => storesIf_ofFields reads title empty name value)
    fun _ other value => fitsNamed_of_not_mem (names_eq reads ▸ other) value

end Fields

/-! ### Plain values -/

theorem succeeds_ite_iff {passes : Prop} [Decidable passes] {value : α} {cause : DecodeCause} :
    (∃ result, (if passes then .ok value else fail cause) = Except.ok result) ↔ passes := by
  split <;> simp [*]

def IsText (value : Json) : Prop :=
  ∃ text, value = .str text

def IsBool (value : Json) : Prop :=
  ∃ truth, value = .bool truth

def IsInt32 (value : Json) : Prop :=
  ∃ number, value = .int number ∧ FitsInt32 number

def IsInt64 (value : Json) : Prop :=
  ∃ number, value = .int number ∧ FitsInt64 number

/-- A text that says a moment. -/
def IsTime (value : Json) : Prop :=
  ∃ text time, value = .str text ∧ Time.read text = .ok time

theorem accepts_text : Accepts text IsText := by
  intro value medium document spells
  cases spells <;> simp [Decodes, text, IsText]

theorem accepts_bool : Accepts bool IsBool := by
  intro value medium document spells
  cases spells <;> simp [Decodes, bool, IsBool]

theorem accepts_int32 : Accepts int32 IsInt32 := by
  intro value medium document spells
  cases spells <;> simp [Decodes, int32, IsInt32, succeeds_ite_iff]

theorem accepts_int64 : Accepts int64 IsInt64 := by
  intro value medium document spells
  cases spells <;> simp [Decodes, int64, IsInt64, succeeds_ite_iff]

theorem accepts_time : Accepts time IsTime := by
  intro value medium document spells
  cases spells with
  | str text => cases read : Time.read text <;> simp [Decodes, time, IsTime, read]
  | _ => simp [Decodes, time, IsTime]

theorem accepts_freeForm : Accepts FreeForm.decode fun _ => True := by
  intro value medium document spells
  obtain ⟨given, read, _⟩ := spells.readsBack
  exact iff_of_true ⟨⟨given, json_settled read⟩, FreeForm.decode_eq_ok_iff.mpr read⟩ trivial

theorem accepts_bound : Accepts Bound.decode fun value => IsInt32 value ∨ IsText value := by
  intro value medium document spells
  cases spells <;> simp [Decodes, Bound.decode, IsInt32, IsText, succeeds_ite_iff]

theorem reads_text (name : String) (get : α → String) (store : String → α → α) :
    Reads (WrittenField.text name get store).toRecordField (name, NullOr IsText) where
  name_eq := rfl
  accepts := accepts_text.optional.map _

theorem reads_freeForm (name : String) (get : α → FreeForm) (store : FreeForm → α → α) :
    Reads (WrittenField.freeForm name get store).toRecordField (name, fun _ => True) where
  name_eq := rfl
  accepts := accepts_freeForm

end Decode

end AvailabilityGate
