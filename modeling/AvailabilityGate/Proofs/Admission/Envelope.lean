import AvailabilityGate.Admission.Request
import AvailabilityGate.Proofs.Manifest.Metadata

/-!
Owns what an admission review that was read says about its text. Each of the forms in a review is
thorough because the decoders of its fields are, also where nothing of a field is kept.

Main statement: a review is read from JSON only.
-/

namespace AvailabilityGate

open Decode

theorem Manifest.thorough_decode : Thorough decode := by
  intro medium document value succeeds
  refine (Record.thorough_openRecord ?_).of_bind succeeds
  intro name member medium document before after succeeds
  simp only [record] at succeeds
  split at succeeds
  case h_1 => exact ObjectMeta.thorough_decode succeeds
  case h_2 => simp_all [record]

namespace Admission

theorem thorough_typeNameRecord (title last : String) (more : List String) :
    (typeNameRecord title last more).Thorough := by
  apply Record.thorough_checked
  intro look member
  obtain ⟨name, _, rfl⟩ := List.mem_map.mp member
  exact thorough_text.seen

theorem thorough_userRecord : userRecord.Thorough := by
  apply Record.thorough_checked
  simp only [List.forall_mem_cons]
  exact ⟨thorough_text.list.table.optional.seen, thorough_text.list.optional.seen,
    thorough_text.optional.seen, thorough_text.optional.seen, by simp⟩

theorem thorough_causeForm : causeForm.Thorough := by
  apply Record.thorough_checked
  simp only [List.forall_mem_cons]
  exact ⟨thorough_text.seen, thorough_text.seen, thorough_text.seen, by simp⟩

theorem thorough_detailsForm : detailsForm.Thorough := by
  apply Record.thorough_checked
  simp only [List.forall_mem_cons]
  exact ⟨thorough_text.seen, thorough_text.seen, thorough_text.seen, thorough_text.seen,
    (Record.thorough_strict thorough_causeForm).list.seen, (thorough_natural _ _).seen, by simp⟩

theorem thorough_statusForm : statusForm.Thorough := by
  apply Record.thorough_checked
  simp only [List.forall_mem_cons]
  exact ⟨(thorough_variant _).optional.seen, (thorough_natural _ _).seen, thorough_text.seen,
    thorough_text.seen, (Record.thorough_strict thorough_detailsForm).optional.seen, by simp⟩

theorem thorough_responseForm : responseForm.Thorough := by
  apply Record.thorough_checked
  simp only [List.forall_mem_cons]
  exact ⟨thorough_text.seen, thorough_bool.seen, Record.thorough_strict thorough_statusForm,
    (thorough_natural _ _).list.optional.seen, (thorough_variant _).optional.seen,
    thorough_text.table.seen, thorough_text.list.optional.seen, by simp⟩

theorem Request.thorough_record : record.Thorough := by
  have typeName (title last : String) (more : List String) :
      Thorough (typeNameRecord title last more).strict :=
    Record.thorough_strict (thorough_typeNameRecord title last more)
  intro name member medium document before after succeeds
  simp only [record] at succeeds
  -- One case for each field in the order of the record, and one for a name that is none of them.
  split at succeeds
  case h_1 | h_8 => exact thorough_text.of_bind succeeds
  case h_2 | h_3 => exact (typeName _ _ _).of_bind succeeds
  case h_4 | h_7 | h_9 => exact thorough_text.optional.of_bind succeeds
  case h_5 | h_6 => exact (typeName _ _ _).optional.of_bind succeeds
  case h_10 => exact (thorough_variant _).of_bind succeeds
  case h_11 => exact (Record.thorough_loose thorough_userRecord).of_bind succeeds
  case h_12 | h_13 => exact Manifest.thorough_decode.optional.of_bind succeeds
  case h_14 => exact thorough_bool.of_bind succeeds
  case h_15 =>
    obtain ⟨_, decoded, _⟩ := Fallible.bind_eq_ok_iff.mp succeeds
    exact json_intact decoded
  case h_16 => simp_all [record]

theorem Review.thorough_decode : Thorough decode := by
  intro medium document value succeeds
  refine (Record.thorough_openRecord ?_).of_bind succeeds
  intro name member medium document before after succeeds
  simp only [record] at succeeds
  split at succeeds
  case h_1 => exact (Record.thorough_strict Request.thorough_record).optional succeeds
  case h_2 => exact (Record.thorough_strict thorough_responseForm).optional.seen.of_bind succeeds
  case h_3 => simp_all [record]

end Admission

end AvailabilityGate
