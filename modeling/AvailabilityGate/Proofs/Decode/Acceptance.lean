import AvailabilityGate.Proofs.Decode.Fields
import AvailabilityGate.Schema.Basic

/-!
Owns which values a decoder takes. For a single value this is a condition, whatever spells the
value; a list is taken if its items are, a table and a record if their members are. For the values
that a schema describes, the condition is what the decoder asks for beyond the schema.

Does not own what the values are decoded to.
-/

namespace AvailabilityGate

open Fallible

theorem Fallible.succeeds_store_iff {α β ε : Type} {first : Except ε α} {store : α → β} :
    (∃ after, (do let value ← first; return store value) = .ok after) ↔
      ∃ value, first = .ok value := by
  cases first <;> simp [bind, Except.bind, pure, Except.pure]

namespace Decode

variable {α β : Type} {decode : Decoder α}

def Decodes (decode : Decoder α) (medium : Medium) (document : Document) : Prop :=
  ∃ result, decode medium document = .ok result

/-- The condition under which the value is decoded, however it is spelled. -/
def TakesIf (decode : Decoder α) (value : Json) (condition : Prop) : Prop :=
  ∀ ⦃medium document⦄, document.Spells value → (Decodes decode medium document ↔ condition)

theorem TakesIf.congr {value : Json} {condition other : Prop}
    (takes : TakesIf decode value condition) (same : condition ↔ other) :
    TakesIf decode value other :=
  fun _ _ spells => (takes spells).trans same

theorem takesIf_optional_null : TakesIf (optional decode) .null True := by
  intro medium document spells
  cases spells
  exact iff_of_true ⟨none, rfl⟩ trivial

theorem TakesIf.optional {value : Json} {condition : Prop} (takes : TakesIf decode value condition)
    (notNull : value ≠ .null) : TakesIf (optional decode) value condition := by
  intro medium document spells
  rw [← takes spells, Decodes, Decodes, optional_of_ne_null (spells.ne_null notNull)]
  cases decode medium document <;> simp

/-! ### Lists and tables -/

theorem succeeds_items_iff {read : Document → Except DecodeFailure α} {index : Nat}
    {documents : List Document} :
    (∃ values, items read none index documents = .ok values) ↔
      ∀ document ∈ documents, ∃ value, read document = .ok value := by
  induction documents generalizing index with
  | nil => exact iff_of_true ⟨[], rfl⟩ (by simp)
  | cons head tail inductionHypothesis =>
      rw [List.forall_mem_cons, ← @inductionHypothesis (index + 1)]
      constructor
      · rintro ⟨values, succeeds⟩
        obtain ⟨value, decoded, remainder⟩ := bind_eq_ok_iff.mp succeeds
        obtain ⟨rest, tailDecoded, _⟩ := bind_eq_ok_iff.mp remainder
        exact ⟨⟨value, within_eq_ok_iff.mp decoded⟩, rest, tailDecoded⟩
      · rintro ⟨⟨value, decoded⟩, rest, tailDecoded⟩
        have placed : within (.item index) (read head) = .ok value := within_eq_ok_iff.mpr decoded
        exact ⟨value :: rest,
          bind_eq_ok_iff.mpr ⟨value, placed, bind_eq_ok_iff.mpr ⟨rest, tailDecoded, rfl⟩⟩⟩

theorem succeeds_entries_iff {read : Document → Except DecodeFailure α} {members : Document.Members}
    (named : ∀ member ∈ members, ∃ name, member.1 = .ok name) {before : Table α} :
    (∃ after, entries read before members = .ok after) ↔
      ∀ member ∈ members, ∃ value, read member.2 = .ok value := by
  induction members generalizing before with
  | nil => exact iff_of_true ⟨before, rfl⟩ (by simp)
  | cons head tail inductionHypothesis =>
      obtain ⟨_, document⟩ := head
      obtain ⟨⟨name, rfl⟩, tailNamed⟩ := List.forall_mem_cons.mp named
      rw [List.forall_mem_cons]
      constructor
      · rintro ⟨after, succeeds⟩
        obtain ⟨_, sameName, remainder⟩ := bind_eq_ok_iff.mp succeeds
        cases sameName
        obtain ⟨value, decoded, tailDecoded⟩ := bind_eq_ok_iff.mp remainder
        exact ⟨⟨value, withinMember_eq_ok_iff.mp decoded⟩,
          (inductionHypothesis tailNamed).mp ⟨after, tailDecoded⟩⟩
      · rintro ⟨⟨value, decoded⟩, tailReads⟩
        obtain ⟨after, tailDecoded⟩ :=
          (@inductionHypothesis tailNamed (before.insert name value)).mpr tailReads
        have placed : withinMember name document (read document) = .ok value :=
          withinMember_eq_ok_iff.mpr decoded
        exact ⟨after,
          bind_eq_ok_iff.mpr ⟨name, rfl, bind_eq_ok_iff.mpr ⟨value, placed, tailDecoded⟩⟩⟩

theorem TakesIf.list {parts : List Json} {Fits : Json → Prop}
    (takes : ∀ part ∈ parts, TakesIf decode part (Fits part)) :
    TakesIf (list decode) (.arr parts) (∀ part ∈ parts, Fits part) := by
  intro medium document spells
  cases spells with
  | @arr documents _ spelled =>
      have decodes_iff : Decodes (Decode.list decode) medium (.arr documents none) ↔
          ∀ document ∈ documents, Decodes decode medium document := succeeds_items_iff
      rw [decodes_iff]
      clear decodes_iff
      induction spelled with
      | nil => simp
      | cons headSpelled _ inductionHypothesis =>
          obtain ⟨headTakes, tailTakes⟩ := List.forall_mem_cons.mp takes
          rw [List.forall_mem_cons, List.forall_mem_cons]
          exact and_congr (headTakes headSpelled) (inductionHypothesis tailTakes)

theorem TakesIf.table {entries : List (String × Json)} {Fits : Json → Prop}
    (takes : ∀ name part, (Json.obj entries).get? name = some part →
      TakesIf decode part (Fits part)) :
    TakesIf (table decode) (.obj entries)
      (∀ name part, (Json.obj entries).get? name = some part → Fits part) := by
  intro medium document spells
  have spelled := spells
  cases spells with
  | @obj members _ named _ _ _ =>
      have decodes_iff : Decodes (Decode.table decode) medium (.obj members none) ↔
          ∀ member ∈ members, Decodes decode medium member.2 := by
        constructor
        · rintro ⟨written, succeeds⟩
          obtain ⟨_, entriesDecoded, _⟩ := bind_eq_ok_iff.mp succeeds
          exact (succeeds_entries_iff named).mp ⟨_, entriesDecoded⟩
        · intro decodes
          obtain ⟨written, entriesDecoded⟩ := (succeeds_entries_iff named).mpr decodes
          exact ⟨written, bind_eq_ok_iff.mpr ⟨written, entriesDecoded, rfl⟩⟩
      rw [decodes_iff]
      constructor
      · intro decodes name part found
        obtain ⟨document, member, partSpelled⟩ := spelled.exists_member found
        exact (takes name part found partSpelled).mp (decodes _ member)
      · rintro fits ⟨_, document⟩ member
        obtain ⟨name, rfl⟩ := named _ member
        obtain ⟨part, found, partSpelled⟩ := spelled.exists_part member
        exact (takes name part found partSpelled).mpr (fits name part found)

/-! ### Records -/

namespace Record

variable {record : Record α} {entries : List (String × Json)} {FieldFits : String → Json → Prop}

/-- The condition under which a field is stored, however its value is spelled. -/
def StoresIf (record : Record α) (name : String) (value : Json) (condition : Prop) : Prop :=
  ∀ ⦃medium document before⦄, document.Spells value →
    ((∃ after, record.set name medium document before = .ok after) ↔ condition)

/-- Every field that is there fits. -/
def AllFit (record : Record α) (FieldFits : String → Json → Prop) (value : Json) : Prop :=
  ∀ name ∈ record.fields, ∀ part, value.get? name = some part → FieldFits name part

section Stores

variable (stores : ∀ name ∈ record.fields, ∀ part, (Json.obj entries).get? name = some part →
  record.StoresIf name part (FieldFits name part))
include stores

theorem keeps_of_allFit (allFit : record.AllFit FieldFits (.obj entries)) (medium : Medium) :
    record.Keeps medium entries fun _ _ => True := by
  intro name part document _ before known found spelled _
  obtain ⟨after, stored⟩ :=
    (stores name known part found spelled).mpr (allFit name known part found)
  exact ⟨after, stored, trivial⟩

theorem allFit_of_setMembers {members : Document.Members} {ending : Option SyntaxFault}
    {once : Bool} {medium : Medium} {result : α × List String}
    (spells : (Document.obj members ending).Spells (.obj entries))
    (succeeds : record.setMembers once medium [] record.empty members = .ok result) :
    record.AllFit FieldFits (.obj entries) := by
  intro name known part found
  obtain ⟨document, member, spelled⟩ := spells.exists_member found
  obtain ⟨before, after, stored⟩ := exists_set_of_mem succeeds member known
  exact (stores name known part found spelled).mp ⟨after, stored⟩

theorem takesIf_loose :
    TakesIf record.loose (.obj entries) (record.AllFit FieldFits (.obj entries)) := by
  intro medium document spells
  constructor
  · rintro ⟨result, decoded⟩
    obtain ⟨members, rfl⟩ := spells.exists_members
    obtain ⟨_, stored, _⟩ := bind_eq_ok_iff.mp decoded
    exact allFit_of_setMembers stores spells stored
  · intro allFit
    obtain ⟨result, _, decoded, _⟩ :=
      loose_of_spells (keeps_of_allFit stores allFit medium) spells trivial
    exact ⟨result, decoded⟩

theorem takesIf_strict
    (complete : ∀ name ∈ record.required,
      name ∈ record.fields ∧ ((Json.obj entries).get? name).isSome) :
    TakesIf record.strict (.obj entries) (record.AllFit FieldFits (.obj entries)) := by
  intro medium document spells
  constructor
  · rintro ⟨result, decoded⟩
    obtain ⟨members, rfl⟩ := spells.exists_members
    obtain ⟨_, stored, _⟩ := bind_eq_ok_iff.mp decoded
    exact allFit_of_setMembers stores spells stored
  · intro allFit
    obtain ⟨result, _, decoded, _⟩ :=
      strict_of_spells (keeps_of_allFit stores allFit medium) spells trivial complete
    exact ⟨result, decoded⟩

end Stores

end Record

theorem TakesIf.stores {value : Json} {condition : Prop} (takes : TakesIf decode value condition)
    {medium : Medium} {document : Document} (spells : document.Spells value) (store : α → β) :
    (∃ after, (do let value ← decode medium document; return store value) = .ok after) ↔
      condition :=
  succeeds_store_iff.trans (takes spells)

end Decode

end AvailabilityGate
