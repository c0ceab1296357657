import AvailabilityGate.Proofs.Decode.Uniform

/-!
Owns what becomes of JSON that is kept without knowing its type. In what is kept every object is
settled, that is by ascending name, so of the many ways to spell a value one is left.

Main statements: kept JSON is recovered from whatever spells it, and spellings of one value are kept
alike.
-/

namespace AvailabilityGate

open Decode Fallible

namespace Json

theorem jsonItems_ofItems {items : List Json}
    (each : ∀ item ∈ items, json (.ofJson item) = .ok item) (index : Nat) :
    jsonItems none index (Document.ofItems items) = .ok items := by
  induction items generalizing index with
  | nil => rfl
  | cons head tail inductionHypothesis =>
      obtain ⟨headRead, tailRead⟩ := List.forall_mem_cons.mp each
      rw [Document.ofItems, jsonItems, headRead]
      simp [within, inductionHypothesis tailRead, bind, Except.bind, pure, Except.pure]

theorem jsonMembers_ofMembers {entries : List (String × Json)}
    (each : ∀ entry ∈ entries, json (.ofJson entry.2) = .ok entry.2) :
    jsonMembers none ((Document.ofMembers entries).map fun entry => (.ok entry.1, entry.2)) =
      .ok entries := by
  induction entries with
  | nil => rfl
  | cons head tail inductionHypothesis =>
      obtain ⟨headRead, tailRead⟩ := List.forall_mem_cons.mp each
      have placed : withinMember head.1 (.ofJson head.2) (json (.ofJson head.2)) = .ok head.2 :=
        withinMember_eq_ok_iff.mpr headRead
      rw [Document.ofMembers, List.map_cons, jsonMembers]
      simp [memberName, placed, inductionHypothesis tailRead, bind, Except.bind, pure, Except.pure]

/-- Settled JSON is read from memory as it is. -/
theorem Settled.json_ofJson {value : Json} (settled : value.Settled) :
    json (.ofJson value) = .ok value := by
  induction settled with
  | null | bool _ | int _ | float _ | str _ => rfl
  | arr _ inductionHypothesis =>
      rw [Document.ofJson, json, jsonItems_ofItems inductionHypothesis]
      rfl
  | @obj entries ascending _ inductionHypothesis =>
      have documents : (Table.ofList (Document.ofMembers entries)).entries =
          Document.ofMembers entries := by
        have ordered : Ascending (Document.ofMembers entries) := by
          rw [Document.ofMembers_eq_map]
          exact List.pairwise_map.mpr ascending
        exact congrArg Table.entries (Table.ofList_entries ⟨_, ordered⟩)
      have kept : members entries = entries :=
        congrArg Table.entries (Table.ofList_entries ⟨_, ascending⟩)
      rw [Document.ofJson, documents, json, jsonMembers_ofMembers inductionHypothesis]
      exact congrArg (Except.ok ∘ Json.obj) kept

theorem Settled.eq_of_ofJson {left right : Json} (leftSettled : left.Settled)
    (rightSettled : right.Settled) (same : Document.ofJson left = .ofJson right) :
    left = right := by
  have read := leftSettled.json_ofJson
  rw [same, rightSettled.json_ofJson] at read
  exact (Except.ok.inj read).symm

end Json

namespace FreeForm

theorem decode_eq_ok_iff {medium : Medium} {document : Document} {result : FreeForm} :
    decode medium document = .ok result ↔ json document = .ok result.value := by
  unfold decode
  split
  · next value read =>
      obtain ⟨kept, _⟩ := result
      simp [read]
  · next failure read => simp [read]

theorem thorough_decode : Thorough decode :=
  fun _ _ _ succeeds => json_intact (decode_eq_ok_iff.mp succeeds)

theorem uniform_decode : Uniform decode := by
  intro value medium document spells result
  obtain ⟨again, read, same⟩ := spells.readsBack
  obtain ⟨direct, readDirect, sameDirect⟩ := (Document.spells_ofJson value).readsBack
  have alike : again = direct :=
    (json_settled read).eq_of_ofJson (json_settled readDirect) (same.trans sameDirect.symm)
  rw [ofJson, decode_eq_ok_iff, decode_eq_ok_iff, read, readDirect, alike]

theorem recovers_decode : Recovers decode FreeForm.value := by
  intro medium document value spells
  refine (uniform_decode spells value).mpr (decode_eq_ok_iff.mpr ?_)
  exact value.settled.json_ofJson

end FreeForm

end AvailabilityGate
