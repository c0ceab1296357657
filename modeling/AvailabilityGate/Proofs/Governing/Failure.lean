import AvailabilityGate.Proofs.Governing.Fold

/-!
Owns the failure of the choice: which malformed selectors make it fail, which of several is
reported, and that a candidate which a matching one before it outweighs plays no part.
-/

namespace AvailabilityGate.Policy

variable {unset : UnsetSelector} {labels : Table String}

/-- What a matching candidate outweighs can be left out. -/
theorem resolve_without_outweighed {before after : List Policy} {candidate : Policy}
    (outweighed : ∃ other ∈ before, other.Matches unset labels ∧
      candidate.spec.weight < other.spec.weight) :
    resolve unset labels (before ++ candidate :: after) =
      resolve unset labels (before ++ after) := by
  rw [resolve_append, resolve_append]
  cases result : resolve unset labels before with
  | error fault => rfl
  | ok current =>
      have optimum : IsOptimum unset labels before current := (resolve_eq_ok_iff.mp result).2
      obtain ⟨chosen, rfl, lighter⟩ := optimum.outweighs_iff.mpr outweighed
      show (candidate :: after).foldlM (choose unset labels) (some chosen) = _
      rw [List.foldlM_cons, choose_of_outweighed lighter]

/-- The choice fails if and only if some candidate is malformed and no matching candidate before it
has greater weight. The fault is that of the first such candidate, as its selector gives it by
itself. A candidate behind a matching one of greater weight changes nothing, malformed or not. -/
theorem resolve_fails_exactly
    (unset : UnsetSelector)
    (labels : Table String)
    (candidates : List Policy) :
    ((∃ fault, resolve unset labels candidates = .error fault) ↔
      ∃ position, FailsAt unset labels candidates position) ∧
    (∀ fault, resolve unset labels candidates = .error fault ↔
      ∃ position, IsFirstFailure unset labels candidates position fault) ∧
    ∀ before candidate after, candidates = before ++ candidate :: after →
      (∃ other ∈ before, other.Matches unset labels ∧
        candidate.spec.weight < other.spec.weight) →
      resolve unset labels candidates = resolve unset labels (before ++ after) := by
  refine ⟨resolve_fails_iff, fun fault => resolve_eq_error_iff, ?_⟩
  intro before candidate after splits outweighed
  rw [splits]
  exact resolve_without_outweighed outweighed

/-- Of two malformed policies behind a matching one only the heavier is noticed. -/
theorem resolve_fails_exactly_heavier :
    resolve .matchNone webLabels [webPolicy "a" 5, brokenPolicy "b" 1, brokenPolicy "c" 7] =
        resolve .matchNone webLabels [webPolicy "a" 5, brokenPolicy "c" 7] ∧
      ∃ position, IsFirstFailure .matchNone webLabels [webPolicy "a" 5, brokenPolicy "c" 7] position
        (.invalidSelector "default/c"
          "failed to parse value as expression: Invalid expression operator") := by
  constructor
  · refine (resolve_fails_exactly .matchNone webLabels _).2.2
      [webPolicy "a" 5] (brokenPolicy "b" 1) [brokenPolicy "c" 7] rfl ?_
    have matching : (webPolicy "a" 5).Matches .matchNone webLabels :=
      selects_eq_true_iff.mp rfl
    exact ⟨webPolicy "a" 5, List.mem_singleton_self _, matching, by decide⟩
  · exact ((resolve_fails_exactly .matchNone webLabels _).2.1 _).mp rfl

end AvailabilityGate.Policy
