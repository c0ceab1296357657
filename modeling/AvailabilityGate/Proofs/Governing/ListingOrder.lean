import AvailabilityGate.Proofs.Governing.Fold
import Mathlib.Data.List.Nodup

/-!
Owns what the order in which the candidates are listed can change. Two successful choices agree in
weight and name. Whether the choice fails depends on the order only if there are malformed
candidates, each of them outweighed by a matching one: a listing by descending weight then succeeds,
and one that begins with a malformed candidate fails.
-/

namespace AvailabilityGate.Policy

variable {unset : UnsetSelector} {labels : Table String} {candidates reordered : List Policy}

/-- Two choices that a difference in listing order can lead to. -/
def SameRank : Option Policy → Option Policy → Prop
  | none, none => True
  | some left, some right => left.Tied right
  | _, _ => False

/-- Listed from the greatest weight down. -/
def Descending (candidates : List Policy) : Prop :=
  candidates.Pairwise fun earlier later => later.spec.weight ≤ earlier.spec.weight

def mayPrecede (earlier later : Policy) : Bool :=
  decide (later.spec.weight ≤ earlier.spec.weight)

def byWeight (candidates : List Policy) : List Policy :=
  candidates.mergeSort mayPrecede

theorem byWeight_perm (candidates : List Policy) : (byWeight candidates).Perm candidates :=
  List.mergeSort_perm candidates mayPrecede

theorem descending_byWeight (candidates : List Policy) : Descending (byWeight candidates) := by
  have transitive : ∀ first second third : Policy,
      mayPrecede first second = true → mayPrecede second third = true →
        mayPrecede first third = true := by
    intro first second third upper lower
    exact decide_eq_true
      (Int32.le_trans (of_decide_eq_true lower) (of_decide_eq_true upper))
  have total : ∀ left right : Policy, (mayPrecede left right || mayPrecede right left) = true := by
    intro left right
    rw [Bool.or_eq_true]
    exact (Int32.le_total right.spec.weight left.spec.weight).imp decide_eq_true decide_eq_true
  exact (List.pairwise_mergeSort transitive total candidates).imp of_decide_eq_true

/-! ### Two choices -/

theorem IsOptimum.sameRank (permuted : reordered.Perm candidates) {chosen other : Option Policy}
    (optimum : IsOptimum unset labels candidates chosen)
    (otherOptimum : IsOptimum unset labels reordered other) : SameRank chosen other := by
  cases chosen with
  | none =>
      cases other with
      | none => trivial
      | some policy =>
          have best : IsBest unset labels reordered policy := otherOptimum
          exact absurd best.matching (optimum policy (permuted.mem_iff.mp best.mem))
  | some policy =>
      have best : IsBest unset labels candidates policy := optimum
      cases other with
      | none => exact absurd best.matching (otherOptimum policy (permuted.mem_iff.mpr best.mem))
      | some otherPolicy =>
          have otherBest : IsBest unset labels reordered otherPolicy := otherOptimum
          exact
            (otherBest.highest policy (permuted.mem_iff.mpr best.mem) best.matching).tied
              (best.highest otherPolicy (permuted.mem_iff.mp otherBest.mem) otherBest.matching)

/-- Equal names make one policy of two equal ranks. -/
theorem SameRank.eq_of_nodup {chosen other : Option Policy} (same : SameRank chosen other)
    (namesDiffer : (candidates.map displayName).Nodup)
    (chosenMember : ∀ policy, chosen = some policy → policy ∈ candidates)
    (otherMember : ∀ policy, other = some policy → policy ∈ candidates) : chosen = other := by
  cases chosen with
  | none =>
      cases other with
      | none => rfl
      | some _ => exact same.elim
  | some policy =>
      cases other with
      | none => exact same.elim
      | some otherPolicy =>
          exact congrArg some (List.inj_on_of_nodup_map namesDiffer (chosenMember policy rfl)
            (otherMember otherPolicy rfl) same.2)

theorem mem_of_resolve {chosen : Option Policy}
    (resolved : resolve unset labels candidates = .ok chosen) (policy : Policy)
    (chosenIs : chosen = some policy) : policy ∈ candidates := by
  subst chosenIs
  have best : IsBest unset labels candidates policy := (resolve_eq_ok_iff.mp resolved).2
  exact best.mem

/-! ### Listings that fail and listings that succeed -/

/-- A malformed candidate that no matching one outweighs is noticed wherever it stands. -/
theorem resolve_fails_of_not_outweighed {culprit : Policy} (member : culprit ∈ candidates)
    (malformed : ¬ culprit.WellFormed)
    (notOutweighed : ∀ other ∈ candidates, other.Matches unset labels →
      other.spec.weight ≤ culprit.spec.weight) :
    ∃ fault, resolve unset labels candidates = .error fault := by
  obtain ⟨position, found⟩ := List.mem_iff_getElem?.mp member
  refine resolve_fails_iff.mpr ⟨position, culprit, found, malformed, ?_⟩
  intro earlier _ other otherFound
  exact notOutweighed other (List.mem_of_getElem? otherFound)

theorem resolve_fails_of_malformed_head {culprit : Policy} (malformed : ¬ culprit.WellFormed)
    (rest : List Policy) :
    ∃ fault, resolve unset labels (culprit :: rest) = .error fault := by
  refine resolve_fails_iff.mpr ⟨0, culprit, rfl, malformed, ?_⟩
  intro earlier below
  exact absurd below (Nat.not_lt_zero earlier)

/-- Going down by weight, what outweighs a candidate stands before it. -/
theorem resolve_of_descending (descending : Descending candidates)
    (outweighed : ∀ culprit ∈ candidates, ¬ culprit.WellFormed →
      ∃ other ∈ candidates, other.Matches unset labels ∧
        culprit.spec.weight < other.spec.weight) :
    ∃ chosen, resolve unset labels candidates = .ok chosen := by
  rw [resolve_succeeds_iff]
  intro position fails
  obtain ⟨culprit, found, malformed, heaviest⟩ := fails
  obtain ⟨other, member, otherMatches, lighter⟩ :=
    outweighed culprit (List.mem_of_getElem? found) malformed
  obtain ⟨otherPosition, otherFound⟩ := List.mem_iff_getElem?.mp member
  have notBefore : ¬ otherPosition < position := fun before =>
    Int32.not_lt.mpr (heaviest otherPosition before other otherFound otherMatches) lighter
  rcases Nat.lt_or_eq_of_le (Nat.not_lt.mp notBefore) with behind | same
  · obtain ⟨below, culpritIs⟩ := List.getElem?_eq_some_iff.mp found
    obtain ⟨otherBelow, otherIs⟩ := List.getElem?_eq_some_iff.mp otherFound
    have notHeavier := List.pairwise_iff_getElem.mp descending position otherPosition below
      otherBelow behind
    rw [culpritIs, otherIs] at notHeavier
    exact Int32.not_lt.mpr notHeavier lighter
  · subst same
    cases Option.some.inj (found.symm.trans otherFound)
    exact Int32.lt_irrefl lighter

/-- What a listing order can change. Two successful choices have one weight and one name, and are
the same where names differ. Without malformed candidates every order succeeds; with one that no
matching candidate outweighs every order fails. In between, when each malformed candidate is
outweighed, listing by descending weight succeeds and an order that begins with a malformed
candidate fails. -/
theorem resolve_listing_order
    (unset : UnsetSelector)
    (labels : Table String)
    (candidates reordered : List Policy)
    (permuted : reordered.Perm candidates) :
    (∀ chosen other,
      resolve unset labels candidates = .ok chosen →
      resolve unset labels reordered = .ok other →
      SameRank chosen other ∧ ((candidates.map displayName).Nodup → chosen = other)) ∧
    ((∀ candidate ∈ candidates, candidate.WellFormed) →
      (∃ chosen, resolve unset labels candidates = .ok chosen) ∧
        ∃ other, resolve unset labels reordered = .ok other) ∧
    ((∃ culprit ∈ candidates, ¬ culprit.WellFormed ∧
        ∀ other ∈ candidates, other.Matches unset labels →
          other.spec.weight ≤ culprit.spec.weight) →
      (∃ fault, resolve unset labels candidates = .error fault) ∧
        ∃ fault, resolve unset labels reordered = .error fault) ∧
    ((∀ culprit ∈ candidates, ¬ culprit.WellFormed →
        ∃ other ∈ candidates, other.Matches unset labels ∧
          culprit.spec.weight < other.spec.weight) →
      (Descending reordered → ∃ chosen, resolve unset labels reordered = .ok chosen) ∧
      (∃ chosen, resolve unset labels (byWeight candidates) = .ok chosen) ∧
      ∀ culprit rest, reordered = culprit :: rest → ¬ culprit.WellFormed →
        ∃ fault, resolve unset labels reordered = .error fault) := by
  have memIff : ∀ policy, policy ∈ reordered ↔ policy ∈ candidates :=
    fun policy => permuted.mem_iff
  refine ⟨?_, ?_, ?_, ?_⟩
  · intro chosen other resolved otherResolved
    have same : SameRank chosen other :=
      (resolve_eq_ok_iff.mp resolved).2.sameRank permuted (resolve_eq_ok_iff.mp otherResolved).2
    refine ⟨same, fun namesDiffer => same.eq_of_nodup namesDiffer (mem_of_resolve resolved) ?_⟩
    intro policy otherIs
    exact (memIff policy).mp (mem_of_resolve otherResolved policy otherIs)
  · intro wellFormed
    refine ⟨resolve_of_wellFormed unset labels wellFormed,
      resolve_of_wellFormed unset labels fun candidate member => ?_⟩
    exact wellFormed candidate ((memIff candidate).mp member)
  · intro hasHeaviest
    obtain ⟨culprit, member, malformed, heaviest⟩ := hasHeaviest
    refine ⟨resolve_fails_of_not_outweighed member malformed heaviest,
      resolve_fails_of_not_outweighed ((memIff culprit).mpr member) malformed ?_⟩
    intro other otherMember
    exact heaviest other ((memIff other).mp otherMember)
  · intro outweighed
    have succeeds : ∀ listing : List Policy, listing.Perm candidates → Descending listing →
        ∃ chosen, resolve unset labels listing = .ok chosen := by
      intro listing listingPermuted descending
      apply resolve_of_descending descending
      intro culprit member malformed
      obtain ⟨other, otherMember, heavier⟩ :=
        outweighed culprit (listingPermuted.mem_iff.mp member) malformed
      exact ⟨other, listingPermuted.mem_iff.mpr otherMember, heavier⟩
    refine ⟨succeeds reordered permuted,
      succeeds (byWeight candidates) (byWeight_perm candidates) (descending_byWeight candidates),
      ?_⟩
    intro culprit rest begins malformed
    rw [begins]
    exact resolve_fails_of_malformed_head malformed rest

/-- One order of a matching policy and a lighter malformed one succeeds, the other fails. -/
theorem resolve_listing_order_matters :
    (∃ chosen, resolve .matchNone webLabels
        (byWeight [webPolicy "a" 5, brokenPolicy "b" 1]) = .ok chosen) ∧
      ∃ fault, resolve .matchNone webLabels [brokenPolicy "b" 1, webPolicy "a" 5] =
        .error fault := by
  have aMatches : (webPolicy "a" 5).Matches .matchNone webLabels := selects_eq_true_iff.mp rfl
  have bMalformed : ¬ (brokenPolicy "b" 1).WellFormed :=
    not_wellFormed_iff.mpr ⟨_, selects_eq_error_iff.mp
      (rfl : (brokenPolicy "b" 1).selects .matchNone webLabels = .error _)⟩
  have remaining := (resolve_listing_order .matchNone webLabels
    [webPolicy "a" 5, brokenPolicy "b" 1] [brokenPolicy "b" 1, webPolicy "a" 5]
    (List.Perm.swap _ _ _)).2.2.2
  obtain ⟨_, sorted, malformedFirst⟩ := remaining (by
    intro culprit member malformed
    refine ⟨webPolicy "a" 5, List.mem_cons_self, aMatches, ?_⟩
    rcases List.mem_cons.mp member with isA | later
    · exact absurd (isA ▸ aMatches.1) malformed
    · rw [List.mem_singleton.mp later]
      decide)
  exact ⟨sorted, malformedFirst _ _ rfl bMalformed⟩

end AvailabilityGate.Policy
