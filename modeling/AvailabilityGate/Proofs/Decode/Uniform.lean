import AvailabilityGate.Proofs.Decode.Acceptance
import AvailabilityGate.Proofs.Decode.Recovery

/-!
Owns the decoders that see a value and not its spelling: in whatever order the members of an object
come, and from a text as from memory, they give the same or they all fail.

Does not own which failure is given. That one does depend on the order.

Main statement: a table is what its members are decoded to, each by itself.
-/

namespace AvailabilityGate.Decode

open Fallible

variable {α β : Type} {decode : Decoder α}

/-- What a decoder gives for a value does not depend on how the value is spelled. -/
def Uniform (decode : Decoder α) : Prop :=
  ∀ ⦃value medium document⦄, document.Spells value → ∀ result,
    decode medium document = .ok result ↔ ofJson decode value = .ok result

theorem Uniform.takesIf (uniform : Uniform decode) (value : Json) :
    TakesIf decode value (∃ result, ofJson decode value = .ok result) :=
  fun _ _ spells => exists_congr fun result => uniform spells result

theorem uniform_text : Uniform text := by
  intro value medium document spells result
  cases spells <;> simp [ofJson, Document.ofJson, text]

theorem uniform_bool : Uniform bool := by
  intro value medium document spells result
  cases spells <;> simp [ofJson, Document.ofJson, bool]

theorem uniform_int64 : Uniform int64 := by
  intro value medium document spells result
  cases spells <;> simp [ofJson, Document.ofJson, int64]

theorem uniform_time : Uniform time := by
  intro value medium document spells result
  cases spells <;> simp [ofJson, Document.ofJson, time]

theorem Uniform.optional (uniform : Uniform decode) : Uniform (optional decode) := by
  intro value medium document spells result
  by_cases isNull : value = .null
  · subst isNull
    cases spells
    exact Iff.rfl
  · have inMemory := (Document.spells_ofJson value).ne_null isNull
    rw [ofJson, optional_of_ne_null (spells.ne_null isNull), optional_of_ne_null inMemory,
      map_eq_ok_iff, map_eq_ok_iff]
    exact exists_congr fun given => and_congr_left fun _ => uniform spells given

theorem Uniform.map (uniform : Uniform decode) (convert : α → β) :
    Uniform fun medium document => convert <$> decode medium document := by
  intro value medium document spells result
  rw [ofJson, map_eq_ok_iff, map_eq_ok_iff]
  exact exists_congr fun given => and_congr_left fun _ => uniform spells given

/-! ### Lists -/

theorem items_eq_ok_iff (uniform : Uniform decode) {medium : Medium} {documents : List Document}
    {parts : List Json} (spelled : List.Forall₂ Document.Spells documents parts) (index : Nat)
    (results : List α) :
    items (decode medium) none index documents = .ok results ↔
      List.Forall₂ (fun part result => ofJson decode part = .ok result) parts results := by
  induction spelled generalizing index results with
  | nil =>
      rw [List.forall₂_nil_left_iff, items]
      exact ⟨fun same => (Except.ok.inj same).symm, fun same => same ▸ rfl⟩
  | cons headSpelled _ inductionHypothesis =>
      rw [items, bind_eq_ok_iff]
      constructor
      · rintro ⟨head, decoded, remainder⟩
        obtain ⟨tail, tailDecoded, same⟩ := bind_eq_ok_iff.mp remainder
        cases same
        exact .cons ((uniform headSpelled head).mp (within_eq_ok_iff.mp decoded))
          ((inductionHypothesis _ _).mp tailDecoded)
      · intro each
        cases each with
        | @cons _ head _ tail decoded tailDecoded =>
            exact ⟨head, within_eq_ok_iff.mpr ((uniform headSpelled head).mpr decoded),
              bind_eq_ok_iff.mpr ⟨tail, (inductionHypothesis _ _).mpr tailDecoded, rfl⟩⟩

theorem Uniform.list (uniform : Uniform decode) : Uniform (list decode) := by
  intro value medium document spells result
  cases spells with
  | @arr documents parts spelled =>
      rw [ofJson, Document.ofJson, Decode.list, items_eq_ok_iff uniform spelled, Decode.list,
        items_eq_ok_iff uniform (Document.spells_ofItems parts)]
  | _ => simp [ofJson, Document.ofJson, Decode.list]

/-! ### Tables -/

/-- Under each name the table has what the object's value there is decoded to. -/
def TableOf (decode : Decoder α) (entries : List (String × Json)) (result : Table α) : Prop :=
  ∀ name, ((Json.obj entries).get? name).map (ofJson decode) = (result.get? name).map .ok

theorem exists_tableOf {entries : List (String × Json)}
    (parts : ∀ name part, (Json.obj entries).get? name = some part →
      ∃ value, ofJson decode part = .ok value) : ∃ result, TableOf decode entries result := by
  have each : ∀ name, ∃ value?, ((Json.obj entries).get? name).map (ofJson decode) =
      Option.map Except.ok value? := by
    intro name
    cases found : (Json.obj entries).get? name with
    | none => exact ⟨none, rfl⟩
    | some part =>
        obtain ⟨value, decoded⟩ := parts name part found
        exact ⟨some value, congrArg some decoded⟩
  choose value? isValue using each
  have ordered : (Table.ofList entries).keys.Pairwise (· < ·) :=
    List.pairwise_map.mpr (Table.ascending _)
  refine ⟨⟨_, .of_filterMap value? ordered⟩, fun name => ?_⟩
  rw [isValue, Table.get?, lookup_filterMap]
  split
  · rfl
  · next other =>
      have missing : (Json.obj entries).get? name = none := by
        rw [← Table.contains_iff, Table.contains] at other
        exact Option.not_isSome_iff_eq_none.mp other
      have nothing := isValue name
      rw [missing] at nothing
      exact nothing.symm

theorem table_eq_ok_iff (uniform : Uniform decode) {medium : Medium} {document : Document}
    {entries : List (String × Json)} (spells : document.Spells (.obj entries)) {result : Table α} :
    table decode medium document = .ok result ↔ TableOf decode entries result := by
  have succeeds {given : Table α} (isTable : TableOf decode entries given) :
      table decode medium document = .ok given := by
    refine table_eq_ok spells (fun name part found => ?_) fun name missing => ?_
    · have decoded := isTable name
      rw [found] at decoded
      obtain ⟨value, isValue, isGiven⟩ := Option.map_eq_some_iff.mp decoded.symm
      exact ⟨value, isValue, fun _ spelled => (uniform spelled value).mpr isGiven.symm⟩
    · have nothing := isTable name
      rw [missing] at nothing
      simpa using nothing.symm
  refine ⟨fun decoded => ?_, succeeds⟩
  have takes : Decodes (table decode) medium document ↔ _ :=
    (TakesIf.table fun _ part _ => uniform.takesIf part) spells
  obtain ⟨given, isTable⟩ := exists_tableOf (takes.mp ⟨result, decoded⟩)
  cases (succeeds isTable).symm.trans decoded
  exact isTable

theorem Uniform.table (uniform : Uniform decode) : Uniform (table decode) := by
  intro value medium document spells result
  cases value with
  | obj entries =>
      rw [table_eq_ok_iff uniform spells, ofJson,
        table_eq_ok_iff uniform (Document.spells_ofJson (.obj entries))]
  | _ =>
      cases spells
      simp [ofJson, Document.ofJson, Decode.table]

/-! ### Fields -/

/-- The value is what the object says under the name, or the given one where it says nothing. -/
def FieldIs (decode : Decoder α) (absent : α) (entries : List (String × Json)) (name : String)
    (value : α) : Prop :=
  match (Json.obj entries).get? name with
  | none => value = absent
  | some part => ofJson decode part = .ok value

section Field

variable {absent value : α} {entries : List (String × Json)} {name : String} {part : Json}

theorem fieldIs_of_found (found : (Json.obj entries).get? name = some part) :
    FieldIs decode absent entries name value ↔ ofJson decode part = .ok value := by
  unfold FieldIs
  rw [found]

theorem fieldIs_of_missing (missing : (Json.obj entries).get? name = none) :
    FieldIs decode absent entries name value ↔ value = absent := by
  unfold FieldIs
  rw [missing]

theorem exists_fieldIs (absent : α)
    (parts : ∀ part, (Json.obj entries).get? name = some part →
      ∃ value, ofJson decode part = .ok value) :
    ∃ value, FieldIs decode absent entries name value := by
  cases found : (Json.obj entries).get? name with
  | none => exact ⟨absent, (fieldIs_of_missing found).mpr rfl⟩
  | some part =>
      obtain ⟨value, decoded⟩ := parts part found
      exact ⟨value, (fieldIs_of_found found).mpr decoded⟩

theorem FieldIs.ite_eq (fieldIs : FieldIs decode absent entries name value) :
    (if ((Json.obj entries).get? name).isSome then value else absent) = value := by
  cases found : (Json.obj entries).get? name with
  | none => simp [(fieldIs_of_missing found).mp fieldIs]
  | some part => simp

end Field

end AvailabilityGate.Decode
