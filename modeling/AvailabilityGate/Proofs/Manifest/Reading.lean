import AvailabilityGate.Manifest
import AvailabilityGate.Proofs.Manifest.Metadata

/-!
Owns which values can be read as manifests. Only the metadata are looked into; the types are kept or
dropped without a failure, and of the other members anything is kept.

Main statement: a value is read if it is an object with metadata that can be read or none, whatever
spells it.
-/

namespace AvailabilityGate

open Decode

namespace TypeMeta

theorem mem_of_mem_takeFrom {apiVersion kind : Option String} {members : List (String × Document)}
    {member : String × Document} (among : member ∈ (takeFrom apiVersion kind members).2) :
    member ∈ members := by
  induction members generalizing apiVersion kind with
  | nil => simp [takeFrom] at among
  | cons head tail inductionHypothesis =>
      obtain ⟨name, document⟩ := head
      rw [takeFrom] at among
      split at among
      · split at among
        · exact List.mem_cons_of_mem _ among
        · exact List.mem_cons_of_mem _ (inductionHypothesis among)
      · split at among
        · split at among
          · exact List.mem_cons_of_mem _ among
          · exact List.mem_cons_of_mem _ (inductionHypothesis among)
        · rcases List.mem_cons.mp among with rfl | later
          · exact List.mem_cons_self
          · exact List.mem_cons_of_mem _ (inductionHypothesis later)

end TypeMeta

namespace Manifest

theorem keepMembers_succeeds {members : List (String × Document)}
    (readable : ∀ member ∈ members, ∃ value, json member.2 = .ok value) :
    ∃ rest, keepMembers members = .ok rest := by
  have read : ∀ member ∈ members.map fun member => ((.ok member.1 : MemberName), member.2),
      ∃ entry : String × Json, member.1 = .ok entry.1 ∧ json member.2 = .ok entry.2 := by
    intro _ among
    obtain ⟨⟨name, document⟩, member, rfl⟩ := List.mem_map.mp among
    obtain ⟨value, decoded⟩ := readable _ member
    exact ⟨(name, value), rfl, decoded⟩
  obtain ⟨values, succeeds, _⟩ := Document.jsonMembers_eq_ok read
  refine ⟨Json.members values, ?_⟩
  rw [keepMembers, succeeds]
  rfl

theorem decodes_iff {medium : Medium} {document : Document} {entries : List (String × Json)}
    (spells : document.Spells (.obj entries)) :
    Decodes decode medium document ↔ Decodes record.strict medium document := by
  obtain ⟨members, rfl⟩ := spells.exists_members
  have readable : ∀ member ∈ (TypeMeta.takeFrom none none (record.otherMembers members)).2,
      ∃ value, json member.2 = .ok value := by
    rintro ⟨name, document⟩ among
    obtain ⟨part, _, spelled⟩ :=
      spells.exists_part (Record.mem_otherMembers.mp (TypeMeta.mem_of_mem_takeFrom among)).1
    obtain ⟨value, decoded, _⟩ := spelled.readsBack
    exact ⟨value, decoded⟩
  obtain ⟨rest, kept⟩ := keepMembers_succeeds readable
  unfold Decodes decode
  rw [Record.openRecord_of_spells spells]
  cases record.strict medium (.obj members none) <;>
    simp [Except.map, bind, Except.bind, pure, Except.pure, kept]

/-- The value is null, or an object with metadata that can be read or none. -/
def Readable (value : Json) : Prop :=
  value = .null ∨ ∃ entries, value = .obj entries ∧ ObjectMeta.ReadableIn entries

theorem takesIf_optional (value : Json) :
    TakesIf (Decode.optional decode) value (Readable value) := by
  cases value with
  | null => exact takesIf_optional_null.congr (iff_of_true trivial (.inl rfl))
  | obj entries =>
      have stores : ∀ name ∈ record.fields, ∀ part, (Json.obj entries).get? name = some part →
          record.StoresIf name part (∃ metadata, ofJson ObjectMeta.decode part = .ok metadata) := by
        intro name known part _ medium document before spelled
        simp only [record, List.mem_singleton] at known
        subst known
        exact ObjectMeta.uniform_decode.takesIf part spelled
      have takes : TakesIf decode (.obj entries) (Readable (.obj entries)) := by
        intro medium document spells
        rw [decodes_iff spells, Record.takesIf_strict stores (by simp [record]) spells]
        simp [Record.AllFit, Readable, ObjectMeta.ReadableIn, record]
      exact takes.optional (by simp)
  | _ =>
      intro medium document spells
      cases spells
      simp [Decodes, Decode.optional, decode, Record.openRecord, mismatch, found, fail, Readable,
        bind, Except.bind]

end Manifest

end AvailabilityGate
