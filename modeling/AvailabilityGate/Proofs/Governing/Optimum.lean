import AvailabilityGate.Proofs.Governing.Fold

/-!
Owns the meaning of a successful choice: it is the best of the matching candidates, the same that a
plain search finds that evaluates every selector before it compares. The converse holds only as far
as selectors are well formed: the plain search fails on malformed ones that the choice leaves alone.
-/

namespace AvailabilityGate.Policy

variable {unset : UnsetSelector} {labels : Table String} {candidates : List Policy}

/-! ### The plain search -/

/-- The candidates that match, every selector being evaluated. -/
def matching (unset : UnsetSelector) (labels : Table String) :
    List Policy → Except ResolveFault (List Policy)
  | [] => .ok []
  | candidate :: rest => do
      let taken ← candidate.selects unset labels
      let others ← matching unset labels rest
      return if taken then candidate :: others else others

/-- The first of the policies to which no other is preferred. -/
def bestOf (policies : List Policy) : Option Policy :=
  policies.find? fun policy => policies.all fun other => decide (¬ other.Preferred policy)

/-- Evaluates every selector, then takes the best. -/
def resolvePlainly (unset : UnsetSelector) (labels : Table String) (candidates : List Policy) :
    Except ResolveFault (Option Policy) := do
  return bestOf (← matching unset labels candidates)

theorem matching_of_wellFormed (wellFormed : ∀ candidate ∈ candidates, candidate.WellFormed) :
    matching unset labels candidates =
      .ok (candidates.filter fun candidate => decide (candidate.Matches unset labels)) := by
  induction candidates with
  | nil => rfl
  | cons candidate rest inductionHypothesis =>
      obtain ⟨headWellFormed, restWellFormed⟩ := List.forall_mem_cons.mp wellFormed
      have answer : candidate.selects unset labels =
          .ok (decide (candidate.Matches unset labels)) :=
        selects_eq_ok_iff.mpr ⟨headWellFormed, by
          rw [decide_eq_true_iff]
          exact ⟨fun both => both.2, fun taking => ⟨headWellFormed, taking⟩⟩⟩
      rw [matching, answer, inductionHypothesis restWellFormed, List.filter_cons]
      rfl

theorem wellFormed_of_matching {taken : List Policy}
    (succeeds : matching unset labels candidates = .ok taken) :
    ∀ candidate ∈ candidates, candidate.WellFormed := by
  induction candidates generalizing taken with
  | nil => exact fun candidate member => absurd member List.not_mem_nil
  | cons candidate rest inductionHypothesis =>
      rw [matching, Fallible.bind_eq_ok_iff] at succeeds
      obtain ⟨_, answer, remainder⟩ := succeeds
      obtain ⟨_, restMatching, _⟩ := Fallible.bind_eq_ok_iff.mp remainder
      exact List.forall_mem_cons.mpr
        ⟨(selects_eq_ok_iff.mp answer).1, inductionHypothesis restMatching⟩

/-- What the search looks for. -/
theorem search_iff {policy : Policy} :
    (decide (decide (policy.Matches unset labels) = true ∧
      (candidates.filter fun candidate => decide (candidate.Matches unset labels)).all
        (fun other => decide (¬ other.Preferred policy)) = true)) = true ↔
      policy.Matches unset labels ∧
        ∀ other ∈ candidates, other.Matches unset labels → other.RanksBelow policy := by
  simp only [decide_eq_true_eq, List.all_eq_true, List.mem_filter, and_imp, not_preferred_iff]

/-- The optimum is what a search among the matching candidates finds. -/
theorem IsOptimum.bestOf_eq {chosen : Option Policy}
    (optimum : IsOptimum unset labels candidates chosen) :
    bestOf (candidates.filter fun candidate => decide (candidate.Matches unset labels)) =
      chosen := by
  unfold bestOf
  rw [List.find?_filter]
  cases chosen with
  | none =>
      rw [List.find?_eq_none]
      intro candidate member found
      exact optimum candidate member (search_iff.mp found).1
  | some policy =>
      have best : IsBest unset labels candidates policy := optimum
      obtain ⟨position, found, noneBefore⟩ := best.earliest
      obtain ⟨below, policyIs⟩ := List.getElem?_eq_some_iff.mp found
      rw [List.find?_eq_some_iff_getElem]
      refine ⟨search_iff.mpr ⟨best.matching, best.highest⟩, position, below, policyIs, ?_⟩
      intro earlier earlierBelow
      -- An earlier one that is looked for, too, would be tied with the best.
      rw [Bool.not_eq_true', Bool.eq_false_iff]
      intro alsoFound
      obtain ⟨earlierMatches, earlierHighest⟩ := search_iff.mp alsoFound
      have stands := List.getElem?_eq_getElem (Nat.lt_trans earlierBelow below)
      have ranksBelow := best.highest _ (List.mem_of_getElem? stands) earlierMatches
      exact noneBefore earlier earlierBelow _ stands earlierMatches
        (ranksBelow.tied (earlierHighest policy best.mem best.matching))

/-! ### The choice -/

/-- Where nothing matches, a malformed candidate has none before it that outweighs it. -/
theorem wellFormed_of_resolve_eq_none (nothing : resolve unset labels candidates = .ok none) :
    ∀ candidate ∈ candidates, candidate.WellFormed := by
  obtain ⟨noneFails, noneMatch⟩ := resolve_eq_ok_iff.mp nothing
  intro candidate member
  obtain ⟨position, found⟩ := List.mem_iff_getElem?.mp member
  by_contra malformed
  refine noneFails position ⟨candidate, found, malformed, ?_⟩
  intro earlier _ other otherFound otherMatches
  exact absurd otherMatches (noneMatch other (List.mem_of_getElem? otherFound))

/-- A plain search that succeeds finds what the choice finds. -/
theorem resolve_of_resolvePlainly {chosen : Option Policy}
    (succeeds : resolvePlainly unset labels candidates = .ok chosen) :
    resolve unset labels candidates = .ok chosen := by
  rw [resolvePlainly, Fallible.bind_eq_ok_iff] at succeeds
  obtain ⟨taken, takes, same⟩ := succeeds
  have wellFormed := wellFormed_of_matching takes
  obtain ⟨optimal, resolved⟩ := resolve_of_wellFormed unset labels wellFormed
  have optimalIs := (resolve_eq_ok_iff.mp resolved).2.bestOf_eq
  have takenIs := Except.ok.inj ((matching_of_wellFormed wellFormed).symm.trans takes)
  rw [resolved, ← optimalIs, takenIs]
  exact congrArg Except.ok (Except.ok.inj same)

/-- A choice that succeeds is the true optimum: without a result, every selector is well formed and
nothing matches; with one, the policy matches, no matching candidate has greater weight or equal
weight and an earlier name, and of those tied with it the policy comes first. It is what a search
through the matching candidates finds, and all that a search finds that evaluates every selector. -/
theorem resolve_optimal
    (unset : UnsetSelector)
    (labels : Table String)
    (candidates : List Policy) :
    (resolve unset labels candidates = .ok none →
      ∀ candidate ∈ candidates, candidate.WellFormed ∧ ¬ candidate.Matches unset labels) ∧
    (∀ policy, resolve unset labels candidates = .ok (some policy) →
      policy ∈ candidates ∧ IsBest unset labels candidates policy) ∧
    (∀ chosen, resolve unset labels candidates = .ok chosen →
      chosen = bestOf (candidates.filter fun candidate =>
        decide (candidate.Matches unset labels))) ∧
    ∀ chosen, resolvePlainly unset labels candidates = .ok chosen →
      resolve unset labels candidates = .ok chosen := by
  refine ⟨?_, ?_, ?_, fun chosen => resolve_of_resolvePlainly⟩
  · intro nothing candidate member
    exact ⟨wellFormed_of_resolve_eq_none nothing candidate member,
      (resolve_eq_ok_iff.mp nothing).2 candidate member⟩
  · intro policy resolved
    have best : IsBest unset labels candidates policy := (resolve_eq_ok_iff.mp resolved).2
    exact ⟨best.mem, best⟩
  · intro chosen resolved
    exact (resolve_eq_ok_iff.mp resolved).2.bestOf_eq.symm

/-- Of two policies of one weight the name decides, and a lighter malformed one does no harm. -/
theorem resolve_optimal_tied_weights :
    resolve .matchNone webLabels [webPolicy "b" 5, brokenPolicy "c" 1, webPolicy "a" 5] =
        .ok (some (webPolicy "a" 5)) ∧
      IsBest .matchNone webLabels [webPolicy "b" 5, brokenPolicy "c" 1, webPolicy "a" 5]
        (webPolicy "a" 5) := by
  have resolved :
      resolve .matchNone webLabels [webPolicy "b" 5, brokenPolicy "c" 1, webPolicy "a" 5] =
        .ok (some (webPolicy "a" 5)) := by
    rfl
  exact ⟨resolved, ((resolve_optimal .matchNone webLabels _).2.1 _ resolved).2⟩

end AvailabilityGate.Policy
