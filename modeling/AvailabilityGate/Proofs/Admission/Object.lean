import AvailabilityGate.Admission.Request
import AvailabilityGate.Proofs.Decode.Frame

/-!
Owns the place of the object in an admission review. The object is the one part that is not the
cluster's own: it is what somebody sent, and the members around it are read without regard to it.

Does not own the other parts of a review.

Main statements: a review that is read with null in place of the object is read with any object that
is itself read, and fails for the object's own cause with any other.
-/

namespace AvailabilityGate

open Fallible

theorem Decode.store_eq_map {α β : Type} {first : Except DecodeFailure α} {changed store : α → β}
    {change : β → β} (same : ∀ value, changed value = change (store value)) :
    (do let value ← first; return changed value) =
      (do let value ← first; return store value).map change := by
  cases first with
  | error failure => rfl
  | ok value => exact congrArg Except.ok (same value)

namespace Admission

theorem Request.passes_object (object : Option Manifest) :
    record.Passes "object" fun request => { request with object } := by
  intro name medium document request known other
  simp only [record, List.mem_cons, List.not_mem_nil, or_false] at known
  rcases known with rfl | rfl | rfl | rfl | rfl | rfl | rfl | rfl | rfl | rfl | rfl | rfl | rfl |
    rfl | rfl
  all_goals first
    | exact absurd rfl other
    | exact Decode.store_eq_map fun _ => rfl

theorem Review.passes_request (request : Option Request) :
    record.Passes "request" fun _ => request := by
  intro name medium document value known other
  simp only [record, List.mem_cons, List.not_mem_nil, or_false] at known
  rcases known with rfl | rfl
  · exact absurd rfl other
  · exact Decode.store_eq_map fun _ => rfl

/-- A review without the object of its request: the members around it. -/
structure Envelope where
  before : Document.Members
  requestBefore : Document.Members
  requestAfter : Document.Members
  after : Document.Members

namespace Envelope

variable (envelope : Envelope) {object : Document}

def request (object : Document) : Document :=
  .obj (envelope.requestBefore ++ (.ok "object", object) :: envelope.requestAfter) none

/-- The review with an object. -/
def around (object : Document) : Document :=
  .obj (envelope.before ++ (.ok "request", envelope.request object) :: envelope.after) none

/-- With null in place of the object, the review is read, and it holds a request. -/
structure WellFormed (review : Review) (inner : Request) : Prop where
  read : Review.decode .text (envelope.around .null) = .ok review
  holds : review.request = some inner

variable {envelope} {review : Review} {inner : Request}

theorem strict_request {decoded : Option Manifest}
    (read : Decode.optional Manifest.decode .text object = .ok decoded)
    (withNull : Request.record.strict .text (envelope.request .null) = .ok inner) :
    Request.record.strict .text (envelope.request object) =
      .ok { inner with object := decoded } := by
  refine Decode.Record.strict_around_replaced (by simp [Request.record])
    (Request.passes_object decoded) (fun before after stored => ?_) withNull
  cases stored
  show (Decode.optional Manifest.decode .text object >>= fun object =>
    pure { before with object }) = _
  rw [read]
  rfl

theorem set_request {before : Option Request}
    (read : Request.record.strict .text (envelope.request object) = .ok inner) :
    Review.record.set "request" .text (envelope.request object) before = .ok (some inner) := by
  show some <$> Request.record.strict .text (envelope.request object) = _
  rw [read]
  rfl

theorem exists_strict_request {before after : Option Request}
    (stored : Review.record.set "request" .text (envelope.request object) before = .ok after) :
    ∃ request, Request.record.strict .text (envelope.request object) = .ok request := by
  obtain ⟨request, read, _⟩ := map_eq_ok_iff.mp stored
  exact ⟨request, read⟩

theorem WellFormed.strict_request_null (wellFormed : envelope.WellFormed review inner) :
    Request.record.strict .text (envelope.request .null) = .ok inner := by
  obtain ⟨⟨request, members⟩, opened, remainder⟩ := bind_eq_ok_iff.mp wellFormed.read
  obtain ⟨_, _, isReview⟩ := bind_eq_ok_iff.mp remainder
  cases isReview
  have known : "request" ∈ Review.record.fields := by simp [Review.record]
  obtain ⟨_, _, stored⟩ := Decode.Record.exists_set_of_openRecord known opened
  obtain ⟨same, read⟩ := exists_strict_request stored
  -- Replaced by itself, the request is what was stored of it last.
  have reopened := Decode.Record.openRecord_around_replaced known
    (Review.passes_request (some same)) (fun _ _ _ => set_request read) opened
  cases reopened.symm.trans opened
  cases wellFormed.holds
  exact read

theorem decode_around (wellFormed : envelope.WellFormed review inner) {decoded : Option Manifest}
    (read : Decode.optional Manifest.decode .text object = .ok decoded) :
    Review.decode .text (envelope.around object) =
      .ok { review with request := some { inner with object := decoded } } := by
  obtain ⟨⟨request, members⟩, opened, remainder⟩ := bind_eq_ok_iff.mp wellFormed.read
  obtain ⟨types, taken, isReview⟩ := bind_eq_ok_iff.mp remainder
  cases isReview
  have known : "request" ∈ Review.record.fields := by simp [Review.record]
  have inserted := strict_request read wellFormed.strict_request_null
  have reopened := Decode.Record.openRecord_around_replaced known
    (Review.passes_request (some { inner with object := decoded }))
    (fun _ _ _ => set_request inserted) opened
  exact bind_eq_ok_iff.mpr ⟨_, reopened, bind_eq_ok_iff.mpr ⟨types, taken, rfl⟩⟩

/-- A review fails as the object in it fails: whatever is behind the object is not looked at. -/
theorem decode_around_refused (wellFormed : envelope.WellFormed review inner)
    {failure : DecodeFailure}
    (refused : Decode.optional Manifest.decode .text object = .error failure) :
    ∃ placed, Review.decode .text (envelope.around object) = .error placed ∧
      placed.cause = failure.cause := by
  have objectRefused : ∀ request : Request,
      Request.record.set "object" .text object request = .error failure := by
    intro request
    show (Decode.optional Manifest.decode .text object >>= fun object =>
      pure { request with object }) = _
    rw [refused]
    rfl
  obtain ⟨within, requestFails, cause⟩ := Decode.Record.strict_around_refused
    (by simp [Request.record]) objectRefused wellFormed.strict_request_null
  have requestRefused : ∀ before : Option Request,
      Review.record.set "request" .text (envelope.request object) before = .error within := by
    intro before
    show some <$> Request.record.strict .text (envelope.request object) = _
    rw [Envelope.request, requestFails]
    rfl
  obtain ⟨opened, openedNull, _⟩ := bind_eq_ok_iff.mp wellFormed.read
  obtain ⟨placed, reviewFails, same⟩ := Decode.Record.openRecord_around_refused
    (by simp [Review.record]) requestRefused openedNull
  exact ⟨placed, bind_eq_error_iff.mpr (.inl reviewFails), same.trans cause⟩

end Envelope

end Admission

end AvailabilityGate
