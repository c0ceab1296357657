import AvailabilityGate.Metrics.Exposition
import AvailabilityGate.Proofs.Gateway.Coherence
import Mathlib.Algebra.Ring.Nat
import Mathlib.Logic.Function.Basic
import Mathlib.Data.List.Perm.Basic

/-!
Owns what a verdict that is recorded changes in the metrics, and what a whole history of verdicts
has changed: each counter has grown by the number of its verdicts, or by the number of their
violations, and by nothing else.

Does not own where the verdicts come from.
-/

namespace AvailabilityGate

/-! ### Labels -/

namespace Metrics

/-- The verdict and the reason with which an outcome is labelled. -/
def Outcome.labels (outcome : Outcome) : String × String :=
  (if outcome.allowed then "allowed" else "denied", (outcome.reason.map DenyReason.name).getD "")

/-- The exposition shows these labels. -/
theorem Outcome.text_eq (outcome : Outcome) :
    outcome.text =
      "\x7bverdict=\"" ++ outcome.labels.1 ++ "\",reason=\"" ++ outcome.labels.2 ++ "\"\x7d" :=
  rfl

/-- No two outcomes share a line of the exposition. -/
theorem Outcome.labels_injective : Function.Injective Outcome.labels := by
  rintro ⟨allowed, reason⟩ ⟨otherAllowed, otherReason⟩ same
  rcases reason with _ | _ | _ | _ <;> rcases otherReason with _ | _ | _ | _ <;>
    cases allowed <;> cases otherAllowed <;> simp_all [labels, DenyReason.name]

end Metrics

namespace Verdict.Coherent

variable {verdict : Verdict} (coherent : verdict.Coherent)
include coherent

theorem labels_admitted (admitted : verdict.denial = none) :
    (Metrics.Outcome.ofVerdict verdict).labels = ("allowed", "") := by
  have allowed : verdict.allowed = true := coherent.allowed_iff.mpr admitted
  simp [Metrics.Outcome.ofVerdict, Metrics.Outcome.labels, allowed, admitted]

theorem labels_denied {denial : Denial} (given : verdict.denial = some denial) :
    (Metrics.Outcome.ofVerdict verdict).labels = ("denied", denial.reason.name) := by
  have denied : verdict.allowed ≠ true := by
    rw [Ne, coherent.allowed_iff, given]
    simp
  simp [Metrics.Outcome.ofVerdict, Metrics.Outcome.labels, denied, given]

end Verdict.Coherent

namespace Metrics

/-! ### One verdict -/

theorem lookup_countOutcome (outcome other : Outcome) (entries : List (Outcome × Nat)) :
    (countOutcome outcome entries).lookup other =
      if other = outcome then some ((entries.lookup other).getD 0 + 1)
      else entries.lookup other := by
  induction entries with
  | nil => rw [countOutcome, lookup_cons_eq_ite, List.lookup_nil, Option.getD_none]
  | cons head tail inductionHypothesis =>
      rw [countOutcome]
      split
      · next same => grind [lookup_cons_eq_ite]
      · next different => grind [lookup_cons_eq_ite]

theorem mem_keys_countOutcome (outcome other : Outcome) (entries : List (Outcome × Nat)) :
    other ∈ (countOutcome outcome entries).map Prod.fst ↔
      other = outcome ∨ other ∈ entries.map Prod.fst := by
  induction entries with
  | nil => simp [countOutcome]
  | cons head tail inductionHypothesis =>
      rw [countOutcome]
      split
      · next same => simp [same]
      · next different =>
          rw [List.map_cons, List.mem_cons, inductionHypothesis, List.map_cons, List.mem_cons,
            or_left_comm]

theorem nodup_keys_countOutcome (outcome : Outcome) {entries : List (Outcome × Nat)}
    (distinct : (entries.map Prod.fst).Nodup) :
    ((countOutcome outcome entries).map Prod.fst).Nodup := by
  induction entries with
  | nil => simp [countOutcome]
  | cons head tail inductionHypothesis =>
      obtain ⟨fresh, tailDistinct⟩ := List.nodup_cons.mp distinct
      rw [countOutcome]
      split
      · next same => exact List.nodup_cons.mpr ⟨same ▸ fresh, tailDistinct⟩
      · next different =>
          refine List.nodup_cons.mpr ⟨?_, inductionHypothesis tailDistinct⟩
          rw [mem_keys_countOutcome, not_or]
          exact ⟨different, fresh⟩

theorem sum_countOutcome (outcome : Outcome) (entries : List (Outcome × Nat)) :
    (countOutcome outcome entries).foldr (fun entry total => entry.2 + total) 0 =
      entries.foldr (fun entry total => entry.2 + total) 0 + 1 := by
  induction entries with
  | nil => rfl
  | cons head tail inductionHypothesis =>
      rw [countOutcome]
      split
      · simp only [List.foldr_cons]
        omega
      · simp only [List.foldr_cons, inductionHypothesis]
        omega

variable (metrics : Metrics) (verdict : Verdict) (seconds : Float)

/-- One counter grows by one. -/
theorem requestsWith_record (outcome : Outcome) :
    (metrics.record verdict seconds).requestsWith outcome =
      metrics.requestsWith outcome + if outcome = .ofVerdict verdict then 1 else 0 := by
  unfold requestsWith record
  rw [lookup_countOutcome]
  split <;> simp

theorem requestTotal_record :
    (metrics.record verdict seconds).requestTotal = metrics.requestTotal + 1 :=
  sum_countOutcome (.ofVerdict verdict) metrics.requests

theorem Histogram.countIn_comm (first second : Float) (buckets : List (Float × Nat)) :
    countIn first (countIn second buckets) = countIn second (countIn first buckets) := by
  induction buckets with
  | nil => rfl
  | cons head tail inductionHypothesis =>
      obtain ⟨bound, count⟩ := head
      by_cases firstFits : first ≤ bound
      · by_cases secondFits : second ≤ bound
        · simp only [countIn, if_pos firstFits, if_pos secondFits]
        · simp only [countIn, if_pos firstFits, if_neg secondFits]
      · by_cases secondFits : second ≤ bound
        · simp only [countIn, if_neg firstFits, if_pos secondFits]
        · simp only [countIn, if_neg firstFits, if_neg secondFits, inductionHypothesis]

/-! ### A history of verdicts -/

/-- Records verdicts, each with the seconds that it took, one after the other. -/
def recordAll (metrics : Metrics) (history : List (Verdict × Float)) : Metrics :=
  history.foldl (fun metrics entry => metrics.record entry.1 entry.2) metrics

variable (history : List (Verdict × Float))

theorem requestsWith_recordAll (outcome : Outcome) :
    (metrics.recordAll history).requestsWith outcome =
      metrics.requestsWith outcome +
        (history.map fun entry => Outcome.ofVerdict entry.1).count outcome := by
  induction history generalizing metrics with
  | nil => rfl
  | cons head tail inductionHypothesis =>
      show ((metrics.record head.1 head.2).recordAll tail).requestsWith outcome = _
      rw [inductionHypothesis, requestsWith_record, List.map_cons, List.count_cons]
      grind

/-- What grows by the same with each verdict, whatever was recorded before, grows by the sum. -/
theorem measure_recordAll (measure : Metrics → Nat) (gain : Verdict → Nat)
    (step : ∀ metrics verdict seconds,
      measure (record metrics verdict seconds) = measure metrics + gain verdict) :
    measure (metrics.recordAll history) =
      measure metrics + (history.map fun entry => gain entry.1).sum := by
  induction history generalizing metrics with
  | nil => rfl
  | cons head tail inductionHypothesis =>
      show measure ((metrics.record head.1 head.2).recordAll tail) = _
      rw [inductionHypothesis, step, List.map_cons, List.sum_cons, Nat.add_assoc]

theorem requestTotal_recordAll :
    (metrics.recordAll history).requestTotal = metrics.requestTotal + history.length := by
  rw [measure_recordAll metrics history requestTotal (fun _ => 1) requestTotal_record]
  simp

theorem violations_recordAll :
    (metrics.recordAll history).violations =
      metrics.violations + (history.map fun entry => entry.1.violations.length).sum :=
  measure_recordAll metrics history Metrics.violations (fun verdict => verdict.violations.length)
    fun _ _ _ => rfl

theorem observations_recordAll :
    (metrics.recordAll history).durations.count = metrics.durations.count + history.length := by
  rw [measure_recordAll metrics history (fun metrics => metrics.durations.count) (fun _ => 1)
    fun _ _ _ => rfl]
  simp

theorem buckets_recordAll :
    (metrics.recordAll history).durations.buckets =
      history.foldl (fun buckets entry => Histogram.countIn entry.2 buckets)
        metrics.durations.buckets := by
  induction history generalizing metrics with
  | nil => rfl
  | cons head tail inductionHypothesis => exact inductionHypothesis (metrics.record head.1 head.2)

theorem mem_keys_recordAll (outcome : Outcome) :
    outcome ∈ (metrics.recordAll history).requests.map Prod.fst ↔
      outcome ∈ metrics.requests.map Prod.fst ∨
        ∃ entry ∈ history, outcome = .ofVerdict entry.1 := by
  induction history generalizing metrics with
  | nil => simp [recordAll]
  | cons head tail inductionHypothesis =>
      show outcome ∈ ((metrics.record head.1 head.2).recordAll tail).requests.map Prod.fst ↔ _
      have recorded : outcome ∈ (metrics.record head.1 head.2).requests.map Prod.fst ↔ _ :=
        mem_keys_countOutcome (.ofVerdict head.1) outcome metrics.requests
      rw [inductionHypothesis, recorded, List.exists_mem_cons_iff, or_assoc, or_left_comm]

theorem nodup_keys_recordAll (distinct : (metrics.requests.map Prod.fst).Nodup) :
    ((metrics.recordAll history).requests.map Prod.fst).Nodup := by
  induction history generalizing metrics with
  | nil => exact distinct
  | cons head tail inductionHypothesis =>
      exact inductionHypothesis (metrics.record head.1 head.2)
        (nodup_keys_countOutcome (.ofVerdict head.1) distinct)

end Metrics

end AvailabilityGate
