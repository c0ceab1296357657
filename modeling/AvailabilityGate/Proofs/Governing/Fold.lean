import AvailabilityGate.Proofs.Governing.Specification
import Mathlib.Data.List.Induction

/-!
Owns the run of the choice over the candidates. The invariant of the run is that what has been
chosen so far is the optimum of the candidates gone through, also of those whose selectors were
left alone: such a candidate is outweighed by the current choice, which carries the greatest weight
among the matching ones.

Main statement: the choice comes to a result if and only if `Outcome` allows it.
-/

namespace AvailabilityGate.Policy

variable {unset : UnsetSelector} {labels : Table String}
variable {before : List Policy} {candidate : Policy} {current : Option Policy}

/-! ### The optimum of one candidate more -/

/-- The better of the choice so far and a matching candidate. -/
def better (current : Option Policy) (candidate : Policy) : Option Policy :=
  match current with
  | none => some candidate
  | some chosen => if candidate.Preferred chosen then some candidate else some chosen

theorem getElem?_last (before : List Policy) (candidate : Policy) :
    (before ++ [candidate])[before.length]? = some candidate := by
  simp

theorem getElem?_before {position : Nat} (below : position < before.length) :
    (before ++ [candidate])[position]? = before[position]? :=
  List.getElem?_append_left below

/-- A candidate to which no matching one before it is equal or preferred becomes the best. -/
theorem isBest_last
    (matching : candidate.Matches unset labels)
    (bestSoFar : ∀ other ∈ before, other.Matches unset labels →
      other.RanksBelow candidate ∧ ¬ other.Tied candidate) :
    IsBest unset labels (before ++ [candidate]) candidate where
  matching := matching
  highest := by
    intro other member otherMatches
    rcases List.mem_append.mp member with old | new
    · exact (bestSoFar other old otherMatches).1
    · rw [List.mem_singleton.mp new]
      exact Tied.ranksBelow ⟨rfl, rfl⟩
  earliest := by
    refine ⟨before.length, getElem?_last before candidate, ?_⟩
    intro earlier below other found otherMatches
    rw [getElem?_before below] at found
    exact (bestSoFar other (List.mem_of_getElem? found) otherMatches).2

/-- The best so far stays the best if the next candidate does not match or ranks no higher. -/
theorem IsBest.append {chosen : Policy} (best : IsBest unset labels before chosen)
    (noHigher : candidate.Matches unset labels → candidate.RanksBelow chosen) :
    IsBest unset labels (before ++ [candidate]) chosen where
  matching := best.matching
  highest := by
    intro other member otherMatches
    rcases List.mem_append.mp member with old | new
    · exact best.highest other old otherMatches
    · cases List.mem_singleton.mp new
      exact noHigher otherMatches
  earliest := by
    obtain ⟨position, found, noneBefore⟩ := best.earliest
    have below : position < before.length := (List.getElem?_eq_some_iff.mp found).1
    refine ⟨position, (getElem?_before below).trans found, ?_⟩
    intro earlier earlierBelow other otherFound
    rw [getElem?_before (Nat.lt_trans earlierBelow below)] at otherFound
    exact noneBefore earlier earlierBelow other otherFound

theorem IsOptimum.append_of_not_matches (optimum : IsOptimum unset labels before current)
    (notMatching : ¬ candidate.Matches unset labels) :
    IsOptimum unset labels (before ++ [candidate]) current := by
  cases current with
  | none =>
      intro other member
      rcases List.mem_append.mp member with old | new
      · exact optimum other old
      · exact List.mem_singleton.mp new ▸ notMatching
  | some chosen =>
      exact IsBest.append optimum fun matching => absurd matching notMatching

theorem IsOptimum.append_of_matches (optimum : IsOptimum unset labels before current)
    (matching : candidate.Matches unset labels) :
    IsOptimum unset labels (before ++ [candidate]) (better current candidate) := by
  cases current with
  | none =>
      exact isBest_last matching fun other member otherMatches =>
        absurd otherMatches (optimum other member)
  | some chosen =>
      have best : IsBest unset labels before chosen := optimum
      by_cases preferred : candidate.Preferred chosen
      · rw [better, if_pos preferred]
        refine isBest_last matching fun other member otherMatches => ?_
        have notAboveChosen := not_preferred_iff.mpr (best.highest other member otherMatches)
        constructor
        · exact not_preferred_iff.mp fun above => notAboveChosen (above.trans preferred)
        · exact fun tied => notAboveChosen (tied.preferred_left preferred)
      · rw [better, if_neg preferred]
        exact best.append fun _ => not_preferred_iff.mp preferred

/-- The choice so far outweighs a candidate if and only if some matching candidate before does. -/
theorem IsOptimum.outweighs_iff (optimum : IsOptimum unset labels before current) :
    (∃ chosen, current = some chosen ∧ candidate.spec.weight < chosen.spec.weight) ↔
      ∃ other ∈ before, other.Matches unset labels ∧
        candidate.spec.weight < other.spec.weight := by
  constructor
  · intro outweighed
    obtain ⟨chosen, rfl, lighter⟩ := outweighed
    have best : IsBest unset labels before chosen := optimum
    exact ⟨chosen, best.mem, best.matching, lighter⟩
  · intro outweighed
    obtain ⟨other, member, otherMatches, lighter⟩ := outweighed
    cases current with
    | none => exact absurd otherMatches (optimum other member)
    | some chosen =>
        have best : IsBest unset labels before chosen := optimum
        exact ⟨chosen, rfl,
          Int32.lt_of_lt_of_le lighter (best.highest other member otherMatches).weight_le⟩

/-! ### One step -/

theorem choose_of_outweighed {chosen : Policy}
    (lighter : candidate.spec.weight < chosen.spec.weight) :
    choose unset labels (some chosen) candidate = .ok (some chosen) := by
  rw [choose, if_pos lighter]

/-- Whether a matching candidate is looked at or not, the better one stays. -/
theorem choose_of_matches (matching : candidate.Matches unset labels) :
    choose unset labels current candidate = .ok (better current candidate) := by
  have answer : candidate.selects unset labels = .ok true := selects_eq_true_iff.mpr matching
  cases current with
  | none =>
      rw [choose, answer]
      rfl
  | some chosen =>
      by_cases lighter : candidate.spec.weight < chosen.spec.weight
      · rw [choose_of_outweighed lighter, better, if_neg (not_preferred_of_lighter lighter)]
      · rw [choose, if_neg lighter, answer]
        show Except.ok (if true = true ∧ candidate.Preferred chosen then _ else _) = _
        simp [better]

theorem choose_of_not_takes (wellFormed : candidate.WellFormed)
    (notTaking : ¬ candidate.Takes unset labels) :
    choose unset labels current candidate = .ok current := by
  have answer : candidate.selects unset labels = .ok false :=
    selects_eq_ok_iff.mpr ⟨wellFormed, by simpa using notTaking⟩
  cases current with
  | none =>
      rw [choose, answer]
      rfl
  | some chosen =>
      by_cases lighter : candidate.spec.weight < chosen.spec.weight
      · exact choose_of_outweighed lighter
      · rw [choose, if_neg lighter, answer]
        rfl

theorem choose_of_failsWith {fault : ResolveFault} (fails : candidate.FailsWith fault)
    (notOutweighed :
      ¬ ∃ chosen, current = some chosen ∧ candidate.spec.weight < chosen.spec.weight) :
    choose unset labels current candidate = .error fault := by
  have answer : candidate.selects unset labels = .error fault := selects_eq_error_iff.mpr fails
  cases current with
  | none =>
      rw [choose, answer]
      rfl
  | some chosen =>
      have notLighter : ¬ candidate.spec.weight < chosen.spec.weight :=
        fun lighter => notOutweighed ⟨chosen, rfl, lighter⟩
      rw [choose, if_neg notLighter, answer]
      rfl

/-! ### Where the choice fails -/

theorem failsAt_append_of_lt {position : Nat} (below : position < before.length) :
    FailsAt unset labels (before ++ [candidate]) position ↔ FailsAt unset labels before position := by
  unfold FailsAt
  rw [getElem?_before below]
  refine exists_congr fun culprit => and_congr_right fun _ => and_congr_right fun _ => ?_
  refine forall₂_congr fun earlier earlierBelow => ?_
  rw [getElem?_before (Nat.lt_trans earlierBelow below)]

theorem failsAt_last_iff :
    FailsAt unset labels (before ++ [candidate]) before.length ↔
      ¬ candidate.WellFormed ∧
        ¬ ∃ other ∈ before, other.Matches unset labels ∧
          candidate.spec.weight < other.spec.weight := by
  unfold FailsAt
  rw [getElem?_last]
  constructor
  · intro fails
    obtain ⟨_, same, malformed, heaviest⟩ := fails
    cases Option.some.inj same
    refine ⟨malformed, ?_⟩
    intro outweighed
    obtain ⟨other, member, otherMatches, lighter⟩ := outweighed
    obtain ⟨position, found⟩ := List.mem_iff_getElem?.mp member
    have below : position < before.length := (List.getElem?_eq_some_iff.mp found).1
    have notHeavier := heaviest position below other ((getElem?_before below).trans found)
      otherMatches
    exact Int32.not_lt.mpr notHeavier lighter
  · intro noticed
    obtain ⟨malformed, notOutweighed⟩ := noticed
    refine ⟨candidate, rfl, malformed, ?_⟩
    intro earlier below other found otherMatches
    rw [getElem?_before below] at found
    exact Int32.not_lt.mp fun lighter =>
      notOutweighed ⟨other, List.mem_of_getElem? found, otherMatches, lighter⟩

theorem FailsAt.lt_length {candidates : List Policy} {position : Nat}
    (fails : FailsAt unset labels candidates position) : position < candidates.length := by
  obtain ⟨_, found, _⟩ := fails
  exact (List.getElem?_eq_some_iff.mp found).1

/-- Nothing fails among the candidates and one more if the one more does not fail. -/
theorem not_failsAt_append
    (noneBefore : ∀ position, ¬ FailsAt unset labels before position)
    (lastFine : ¬ FailsAt unset labels (before ++ [candidate]) before.length)
    (position : Nat) : ¬ FailsAt unset labels (before ++ [candidate]) position := by
  intro fails
  have below : position < before.length + 1 := by
    simpa using fails.lt_length
  rcases Nat.lt_succ_iff_lt_or_eq.mp below with inBefore | atEnd
  · exact noneBefore position ((failsAt_append_of_lt inBefore).mp fails)
  · exact lastFine (atEnd ▸ fails)

theorem IsFirstFailure.append {position : Nat} {fault : ResolveFault}
    (failure : IsFirstFailure unset labels before position fault) :
    IsFirstFailure unset labels (before ++ [candidate]) position fault := by
  have below : position < before.length := failure.fails.lt_length
  refine ⟨(failsAt_append_of_lt below).mpr failure.fails, ?_, ?_⟩
  · intro earlier earlierBelow fails
    exact failure.first earlier earlierBelow
      ((failsAt_append_of_lt (Nat.lt_trans earlierBelow below)).mp fails)
  · obtain ⟨culprit, found, fails⟩ := failure.reason
    exact ⟨culprit, (getElem?_before below).trans found, fails⟩

/-! ### The whole run -/

/-- One candidate more keeps the result what it has to be. -/
theorem Outcome.step {result : Except ResolveFault (Option Policy)}
    (outcome : Outcome unset labels before result) :
    Outcome unset labels (before ++ [candidate])
      (result >>= fun current => choose unset labels current candidate) := by
  cases result with
  | error fault =>
      obtain ⟨position, failure⟩ := outcome
      exact ⟨position, failure.append⟩
  | ok current =>
      obtain ⟨noneBefore, optimum⟩ := outcome
      show Outcome unset labels (before ++ [candidate]) (choose unset labels current candidate)
      by_cases matching : candidate.Matches unset labels
      · rw [choose_of_matches matching]
        refine ⟨not_failsAt_append noneBefore ?_, optimum.append_of_matches matching⟩
        exact fun fails => (failsAt_last_iff.mp fails).1 matching.1
      · have optimumStays := optimum.append_of_not_matches matching
        by_cases wellFormed : candidate.WellFormed
        · rw [choose_of_not_takes wellFormed fun taking => matching ⟨wellFormed, taking⟩]
          refine ⟨not_failsAt_append noneBefore ?_, optimumStays⟩
          exact fun fails => (failsAt_last_iff.mp fails).1 wellFormed
        · by_cases outweighed :
              ∃ chosen, current = some chosen ∧ candidate.spec.weight < chosen.spec.weight
          · obtain ⟨chosen, rfl, lighter⟩ := outweighed
            rw [choose_of_outweighed lighter]
            refine ⟨not_failsAt_append noneBefore ?_, optimumStays⟩
            exact fun fails => (failsAt_last_iff.mp fails).2
              (optimum.outweighs_iff.mp ⟨chosen, rfl, lighter⟩)
          · obtain ⟨fault, fails⟩ := not_wellFormed_iff.mp wellFormed
            rw [choose_of_failsWith fails outweighed]
            refine ⟨before.length, ?_, ?_, candidate, getElem?_last before candidate, fails⟩
            · exact failsAt_last_iff.mpr
                ⟨wellFormed, fun heavier => outweighed (optimum.outweighs_iff.mpr heavier)⟩
            · exact fun earlier below failsEarlier =>
                noneBefore earlier ((failsAt_append_of_lt below).mp failsEarlier)

theorem resolve_append (before after : List Policy) :
    resolve unset labels (before ++ after) =
      resolve unset labels before >>= fun current =>
        after.foldlM (choose unset labels) current :=
  List.foldlM_append

theorem resolve_append_singleton (before : List Policy) (candidate : Policy) :
    resolve unset labels (before ++ [candidate]) =
      resolve unset labels before >>= fun current => choose unset labels current candidate := by
  rw [resolve_append]
  simp only [List.foldlM_cons, List.foldlM_nil, bind_pure]

/-- The choice comes to what it has to come to. -/
theorem resolve_outcome (unset : UnsetSelector) (labels : Table String) (candidates : List Policy) :
    Outcome unset labels candidates (resolve unset labels candidates) := by
  induction candidates using List.reverseRecOn with
  | nil =>
      refine ⟨fun position fails => ?_, fun candidate member => absurd member List.not_mem_nil⟩
      exact absurd fails.lt_length (Nat.not_lt_zero position)
  | append_singleton before candidate inductionHypothesis =>
      rw [resolve_append_singleton]
      exact inductionHypothesis.step

theorem resolve_eq_iff {candidates : List Policy} {result : Except ResolveFault (Option Policy)} :
    resolve unset labels candidates = result ↔ Outcome unset labels candidates result := by
  constructor
  · intro same
    exact same ▸ resolve_outcome unset labels candidates
  · intro outcome
    exact (resolve_outcome unset labels candidates).unique outcome

/-! ### Success and failure -/

theorem resolve_eq_ok_iff {candidates : List Policy} {chosen : Option Policy} :
    resolve unset labels candidates = .ok chosen ↔
      (∀ position, ¬ FailsAt unset labels candidates position) ∧
        IsOptimum unset labels candidates chosen :=
  resolve_eq_iff

theorem resolve_eq_error_iff {candidates : List Policy} {fault : ResolveFault} :
    resolve unset labels candidates = .error fault ↔
      ∃ position, IsFirstFailure unset labels candidates position fault :=
  resolve_eq_iff

theorem resolve_fails_iff {candidates : List Policy} :
    (∃ fault, resolve unset labels candidates = .error fault) ↔
      ∃ position, FailsAt unset labels candidates position := by
  cases result : resolve unset labels candidates with
  | ok chosen =>
      have noneFails := (resolve_eq_ok_iff.mp result).1
      refine ⟨fun failed => ?_, fun failed => ?_⟩
      · obtain ⟨fault, impossible⟩ := failed
        cases impossible
      · obtain ⟨position, fails⟩ := failed
        exact absurd fails (noneFails position)
  | error fault =>
      obtain ⟨position, failure⟩ := resolve_eq_error_iff.mp result
      exact ⟨fun _ => ⟨position, failure.fails⟩, fun _ => ⟨fault, rfl⟩⟩

theorem resolve_succeeds_iff {candidates : List Policy} :
    (∃ chosen, resolve unset labels candidates = .ok chosen) ↔
      ∀ position, ¬ FailsAt unset labels candidates position := by
  rw [← not_exists, ← resolve_fails_iff]
  cases resolve unset labels candidates with
  | ok chosen => simp
  | error fault => simp

theorem resolve_of_wellFormed {candidates : List Policy} (unset : UnsetSelector)
    (labels : Table String) (wellFormed : ∀ candidate ∈ candidates, candidate.WellFormed) :
    ∃ chosen, resolve unset labels candidates = .ok chosen := by
  rw [resolve_succeeds_iff]
  intro position fails
  obtain ⟨culprit, found, malformed, _⟩ := fails
  exact malformed (wellFormed culprit (List.mem_of_getElem? found))

end AvailabilityGate.Policy
