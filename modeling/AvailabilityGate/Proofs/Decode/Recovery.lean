import AvailabilityGate.Proofs.Decode.Fields
import AvailabilityGate.Proofs.Time.RoundTrip

/-!
Owns what it takes for a decoder to give back what was encoded. A record is put together again field
by field, in whatever order its members come; lists and tables from their items.

Does not own the records themselves.

Main statement: a decoder that recovers values from documents recovers them from memory and from
text, and then no two values are encoded alike.
-/

namespace AvailabilityGate

open Fallible

namespace Json

theorem lookup_optional {α : Type} (name other : String) (encode : α → Json) (value? : Option α) :
    (optional name encode value?).reverse.lookup other =
      if other = name then value?.map encode else none := by
  cases value? with
  | none => simp [optional]
  | some value => simp [optional, lookup_cons_eq_ite]

theorem lookup_map_snd {α β : Type} (convert : α → β) (key : String) (entries : List (String × α)) :
    (entries.map fun entry => (entry.1, convert entry.2)).lookup key =
      (entries.lookup key).map convert := by
  induction entries with
  | nil => rfl
  | cons head tail inductionHypothesis =>
      rw [List.map_cons, lookup_cons_eq_ite, lookup_cons_eq_ite, inductionHypothesis]
      split <;> rfl

theorem get?_ofTable {α : Type} (encode : α → Json) (table : Table α) (key : String) :
    (ofTable encode table).get? key = (table.get? key).map encode := by
  rw [ofTable, get?_obj, ← List.map_reverse, lookup_map_snd,
    lookup_reverse table.ascending.nodup_keys, Table.get?]

end Json

namespace Decode

variable {α : Type}

/-- From whatever spells an encoded value, the decoder gives that value back. -/
def Recovers (decode : Decoder α) (encode : α → Json) : Prop :=
  ∀ ⦃medium document value⦄, document.Spells (encode value) → decode medium document = .ok value

section Consequences

variable {decode : Decoder α} {encode : α → Json} (recovers : Recovers decode encode)
include recovers

theorem Recovers.ofJson (value : α) : ofJson decode (encode value) = .ok value :=
  recovers (Document.spells_ofJson (encode value))

theorem Recovers.ofText {content : String} {value : α}
    (writes : Document.Writes content (encode value)) : ofText decode content = .ok value := by
  obtain ⟨spells, nothingTrails⟩ := writes
  rw [Decode.ofText, recovers spells, nothingTrails]
  rfl

theorem Recovers.injective : Function.Injective encode := by
  intro left right same
  have leftRead := recovers.ofJson left
  rw [same, recovers.ofJson right] at leftRead
  exact (Except.ok.inj leftRead).symm

end Consequences

theorem recovers_text : Recovers text .str := by
  intro medium document value spells
  cases spells
  rfl

theorem recovers_bool : Recovers bool .bool := by
  intro medium document value spells
  cases spells
  rfl

theorem fitsInt32_toInt (value : Int32) : FitsInt32 value.toInt :=
  ⟨value.le_toInt, Int.le_of_lt_add_one value.toInt_lt⟩

theorem recovers_int32 : Recovers int32 fun value => .int value.toInt := by
  intro medium document value spells
  cases spells
  rw [int32, if_pos (fitsInt32_toInt value), Int32.ofInt_toInt]

theorem fitsInt64_toInt (value : Int64) : FitsInt64 value.toInt :=
  ⟨value.le_toInt, Int.le_of_lt_add_one value.toInt_lt⟩

theorem recovers_int64 : Recovers int64 fun value => .int value.toInt := by
  intro medium document value spells
  cases spells
  rw [int64, if_pos (fitsInt64_toInt value), Int64.ofInt_toInt]

theorem recovers_time : Recovers time fun value => .str value.text := by
  intro medium document value spells
  cases spells
  rw [time, Time.read_text]

/-- A table is read from members that are each read as what is to be found at their name. -/
theorem entries_eq_ok {read : Document → Except DecodeFailure α} {found : String → Option α}
    {members : Document.Members}
    (each : ∀ member ∈ members, ∃ name value,
      member.1 = .ok name ∧ found name = some value ∧ read member.2 = .ok value)
    (before : Table α) :
    ∃ table, entries read before members = .ok table ∧ ∀ key,
      (.ok key ∈ members.map Prod.fst → table.get? key = found key) ∧
        (.ok key ∉ members.map Prod.fst → table.get? key = before.get? key) := by
  induction members generalizing before with
  | nil => exact ⟨before, rfl, by simp⟩
  | cons head tail inductionHypothesis =>
      obtain ⟨⟨name, value, named, isFound, decoded⟩, tailEach⟩ := List.forall_mem_cons.mp each
      obtain ⟨_, document⟩ := head
      cases named
      obtain ⟨table, succeeds, get?_eq⟩ := inductionHypothesis tailEach (before.insert name value)
      refine ⟨table, ?_, fun key => ?_⟩
      · have placed : withinMember name document (read document) = .ok value :=
          withinMember_eq_ok_iff.mpr decoded
        rw [entries]
        simp [memberName, placed, succeeds, bind, Except.bind]
      · have inTail := (get?_eq key).1
        have notInTail := (get?_eq key).2
        rw [Table.get?_insert] at notInTail
        grind

/-- A table is read if under each name that the object has its value is read. -/
theorem table_eq_ok {decode : Decoder α} {medium : Medium} {document : Document}
    {entries : List (String × Json)} (spells : document.Spells (.obj entries)) {result : Table α}
    (each : ∀ name part, (Json.obj entries).get? name = some part →
      ∃ value, result.get? name = some value ∧
        ∀ spelling, spelling.Spells part → decode medium spelling = .ok value)
    (absent : ∀ name, (Json.obj entries).get? name = none → result.get? name = none) :
    table decode medium document = .ok result := by
  have spelled := spells
  cases spells with
  | @obj members _ named _ present _ =>
      have eachMember : ∀ member ∈ members, ∃ name value, member.1 = .ok name ∧
          result.get? name = some value ∧ decode medium member.2 = .ok value := by
        rintro ⟨_, document⟩ member
        obtain ⟨name, rfl⟩ := named _ member
        obtain ⟨part, found, partSpelled⟩ := spelled.exists_part member
        obtain ⟨value, isValue, decoded⟩ := each name part found
        exact ⟨name, value, rfl, isValue, decoded _ partSpelled⟩
      obtain ⟨written, succeeds, get?_eq⟩ := entries_eq_ok eachMember .empty
      have same : written = result := by
        refine Table.eq_of_get? fun key => ?_
        by_cases isName : .ok key ∈ members.map Prod.fst
        · exact (get?_eq key).1 isName
        · have missing : (Json.obj entries).get? key = none := by
            rw [present] at isName
            simpa using isName
          rw [(get?_eq key).2 isName, absent key missing]
          rfl
      rw [Decode.table, succeeds, same]
      rfl

section Combinators

variable {decode : Decoder α} {encode : α → Json} (recovers : Recovers decode encode)
include recovers

theorem Recovers.optional (notNull : ∀ value, encode value ≠ .null) {medium : Medium}
    {document : Document} {value? : Option α} {part : Json}
    (written : value?.map encode = some part) (spells : document.Spells part) :
    Decode.optional decode medium document = .ok value? := by
  obtain ⟨value, rfl, rfl⟩ := Option.map_eq_some_iff.mp written
  rw [optional_of_ne_null (spells.ne_null (notNull value)), recovers spells]
  rfl

theorem Recovers.items {medium : Medium} {documents : List Document} {values : List α}
    (parts : List.Forall₂ Document.Spells documents (values.map encode)) (index : Nat) :
    Decode.items (decode medium) none index documents = .ok values := by
  induction values generalizing documents index with
  | nil =>
      cases parts
      rfl
  | cons head tail inductionHypothesis =>
      cases parts with
      | cons spelled rest =>
          rw [Decode.items, recovers spelled]
          simp [within, inductionHypothesis rest, bind, Except.bind, pure, Except.pure]

theorem Recovers.list : Recovers (list decode) fun values => .arr (values.map encode) := by
  intro medium document values spells
  cases spells with
  | arr parts => exact recovers.items parts 0

theorem Recovers.table : Recovers (table decode) (Json.ofTable encode) := by
  intro medium document written spells
  have get?_written := Json.get?_ofTable encode written
  rw [Json.ofTable] at spells get?_written
  refine table_eq_ok spells (fun name part found => ?_) fun name missing => ?_
  · rw [get?_written] at found
    obtain ⟨value, isValue, rfl⟩ := Option.map_eq_some_iff.mp found
    exact ⟨value, isValue, fun _ spelled => recovers spelled⟩
  · simpa [get?_written] using missing

end Combinators

/-! ### Records -/

theorem ite_isSome (value? : Option α) :
    (if value?.isSome = true then value? else none) = value? := by
  cases value? <;> rfl

namespace Record

/-- Each field of a written record can be stored back by itself. `upTo names` is a record of which
no more than the named fields have been stored. -/
structure Written (record : Record α) (encode : α → Json) (upTo : List String → α → α) : Prop where
  object : ∀ value, ∃ entries, encode value = .obj entries
  nothing : ∀ value, upTo [] value = record.empty
  set : ∀ {value : α} {medium : Medium} {name : String} {part : Json} {document : Document}
    (names : List String), name ∈ record.fields → (encode value).get? name = some part →
      document.Spells part →
        record.set name medium document (upTo names value) = .ok (upTo (name :: names) value)
  all : ∀ {value : α} {names : List String},
    (∀ name, name ∈ names ↔ name ∈ record.fields ∧ ((encode value).get? name).isSome) →
      upTo names value = value

variable {record : Record α} {encode : α → Json} {upTo : List String → α → α}

theorem Written.keeps (written : record.Written encode upTo) {value : α} {medium : Medium}
    {entries : List (String × Json)} (encoded : encode value = .obj entries) :
    record.Keeps medium entries fun names stored => stored = upTo names value := by
  rintro name part document names _ known found spelled rfl
  exact ⟨_, written.set names known (encoded ▸ found) spelled, rfl⟩

theorem Written.recovers_loose (written : record.Written encode upTo) :
    Recovers record.loose encode := by
  intro medium document value spells
  obtain ⟨entries, encoded⟩ := written.object value
  rw [encoded] at spells
  obtain ⟨_, names, succeeds, rfl, areFields⟩ :=
    loose_of_spells (written.keeps encoded) spells (written.nothing value).symm
  rw [succeeds, written.all fun name => encoded ▸ areFields name]

theorem Written.recovers_strict (written : record.Written encode upTo)
    (complete : ∀ value, ∀ name ∈ record.required,
      name ∈ record.fields ∧ ((encode value).get? name).isSome) :
    Recovers record.strict encode := by
  intro medium document value spells
  obtain ⟨entries, encoded⟩ := written.object value
  rw [encoded] at spells
  obtain ⟨_, names, succeeds, rfl, areFields⟩ :=
    strict_of_spells (written.keeps encoded) spells (written.nothing value).symm
      (encoded ▸ complete value)
  rw [succeeds, written.all fun name => encoded ▸ areFields name]

end Record

end Decode

end AvailabilityGate
