import AvailabilityGate.Proofs.Decode.Fields

/-!
Owns the decoding of records from values in memory. There the members of an object come by ascending
name, each once, so a record with its fields in that order is decoded by storing one field after the
other. The first failure is that of the first field that fails.
-/

namespace AvailabilityGate

open Fallible

namespace Decode

/-- Those of the names that the object has, in the order of the names. -/
def namedMembers (names : List String) (entries : List (String × Json)) :
    List (String × Document) :=
  names.filterMap fun name =>
    (((Json.obj entries).get? name).map .ofJson).map fun document => (name, document)

theorem namedMembers_congr {names : List String} {entries others : List (String × Json)}
    (same : ∀ name ∈ names, ((Json.obj entries).get? name).map Document.ofJson =
      ((Json.obj others).get? name).map .ofJson) :
    namedMembers names entries = namedMembers names others :=
  List.filterMap_congr fun name member => by rw [same name member]

theorem name_mem_of_mem_namedMembers {names : List String} {entries : List (String × Json)}
    {member : String × Document} (among : member ∈ namedMembers names entries) :
    member.1 ∈ names := by
  obtain ⟨name, isName, isMember⟩ := List.mem_filterMap.mp among
  obtain ⟨document, _, rfl⟩ := Option.map_eq_some_iff.mp isMember
  exact isName

theorem withinMember_map {α β : Type} (name : String) (document : Document) (convert : α → β)
    (result : Except DecodeFailure α) :
    withinMember name document (convert <$> result) =
      convert <$> withinMember name document result := by
  unfold withinMember within
  split
  · rfl
  · cases result <;> rfl

namespace Record

variable {α : Type} {record : Record α} {entries : List (String × Json)}

/-- Stores a member in memory as a field. -/
def store (record : Record α) (value : α) (member : String × Document) :
    Except DecodeFailure α :=
  withinMember member.1 member.2 (record.set member.1 .value member.2 value)

theorem setMembers_eq_foldlM {once : Bool} {members : List (String × Document)}
    (distinct : (members.map Prod.fst).Nodup) (intact : ∀ member ∈ members, member.2.Intact)
    {seen : List String} (fresh : ∀ name ∈ seen, name ∉ members.map Prod.fst) (before : α) :
    (record.setMembers once .value seen before
        (members.map fun member => (.ok member.1, member.2))).map Prod.fst =
      (members.filter fun member => member.1 ∈ record.fields).foldlM record.store before := by
  induction members generalizing seen before with
  | nil => rfl
  | cons head tail inductionHypothesis =>
      obtain ⟨name, document⟩ := head
      obtain ⟨nameAbsent, tailDistinct⟩ := List.nodup_cons.mp distinct
      obtain ⟨headIntact, tailIntact⟩ := List.forall_mem_cons.mp intact
      have tailFresh : ∀ name ∈ seen, name ∉ tail.map Prod.fst := fun name member later =>
        fresh name member (List.mem_cons_of_mem _ later)
      rw [List.map_cons, List.filter_cons]
      by_cases known : name ∈ record.fields
      · have notSeen : name ∉ seen := fun member => fresh name member List.mem_cons_self
        have laterFresh : ∀ other ∈ name :: seen, other ∉ tail.map Prod.fst :=
          List.forall_mem_cons.mpr ⟨nameAbsent, tailFresh⟩
        rw [setMembers_cons_of_known known notSeen, if_pos (by simpa using known),
          List.foldlM_cons, store]
        cases withinMember name document (record.set name .value document before) with
        | error failure => rfl
        | ok after => exact inductionHypothesis tailDistinct tailIntact laterFresh after
      · rw [setMembers_cons_of_unknown known headIntact, if_neg (by simpa using known)]
        exact inductionHypothesis tailDistinct tailIntact tailFresh before

theorem setMembers_ofMembers (once : Bool) (ordered : record.fields.Pairwise (· < ·)) :
    (record.setMembers once .value [] record.empty
        ((Table.ofList (Document.ofMembers entries)).entries.map
          fun entry => (.ok entry.1, entry.2))).map Prod.fst =
      (namedMembers record.fields entries).foldlM record.store record.empty := by
  have ascending := (Table.ofList (Document.ofMembers entries)).ascending
  have intact : ∀ member ∈ (Table.ofList (Document.ofMembers entries)).entries,
      member.2.Intact := by
    intro member among
    have found := Table.mem_entries_iff.mp among
    rw [Document.get?_ofMembers] at found
    obtain ⟨part, _, isPart⟩ := Option.map_eq_some_iff.mp found
    exact isPart ▸ (Document.spells_ofJson part).intact
  rw [setMembers_eq_foldlM ascending.nodup_keys intact (by simp),
    ascending.filter_eq_filterMap ordered, namedMembers]
  simp only [← Document.get?_ofMembers, Table.get?]

theorem loose_ofJson (ordered : record.fields.Pairwise (· < ·)) :
    ofJson record.loose (.obj entries) =
      (namedMembers record.fields entries).foldlM record.store record.empty := by
  rw [← setMembers_ofMembers false ordered, ofJson, Document.ofJson, loose]
  cases record.setMembers false .value [] record.empty
      ((Table.ofList (Document.ofMembers entries)).entries.map fun entry => (.ok entry.1, entry.2))
    with
  | error failure => rfl
  | ok stored => rfl

end Record

end Decode

end AvailabilityGate
