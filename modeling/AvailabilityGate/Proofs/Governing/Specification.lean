import AvailabilityGate.Proofs.Governing.Ranking
import AvailabilityGate.Proofs.SelectorMeaning

/-!
Owns what the choice of a governing policy is held to, without a word about how the candidates are
gone through: which policies match an object, which of them is the best, and which malformed
selector makes the choice fail.

Main statement: `Outcome` leaves one result at most for each list of candidates.
-/

namespace AvailabilityGate.Policy

/-- The selector, if the policy has one, is well formed. -/
def WellFormed (policy : Policy) : Prop :=
  ∀ selector, policy.spec.selector = some selector → selector.WellFormed

/-- The selector takes the labels; a policy without one takes any labels or none. -/
def Takes (unset : UnsetSelector) (labels : Table String) (policy : Policy) : Prop :=
  match policy.spec.selector with
  | none => unset = .matchAll
  | some selector => selector.Takes labels

def Matches (unset : UnsetSelector) (labels : Table String) (policy : Policy) : Prop :=
  policy.WellFormed ∧ policy.Takes unset labels

/-- The fault that the policy's selector gives by itself. -/
def FailsWith (policy : Policy) (fault : ResolveFault) : Prop :=
  ∃ selector reason,
    policy.spec.selector = some selector ∧ selector.parse = .error reason ∧
      fault = .invalidSelector
        (policy.metadata.home.getD "" ++ "/" ++ policy.displayName) reason.message

/-! ### A single candidate -/

section Candidate

variable {unset : UnsetSelector} {labels : Table String} {policy : Policy}

theorem selects_of_none (selectorIs : policy.spec.selector = none) :
    policy.selects unset labels = .ok (unset == .matchAll) := by
  rw [selects, selectorIs]

theorem selects_of_some {selector : LabelSelector}
    (selectorIs : policy.spec.selector = some selector) :
    policy.selects unset labels = (selector.selects labels).mapError fun fault =>
      .invalidSelector policy.qualifiedName fault.message := by
  rw [selects, selectorIs]

/-- A policy gives an answer if and only if its selector is well formed, and the answer is whether
it takes the labels. -/
theorem selects_eq_ok_iff {taken : Bool} :
    policy.selects unset labels = .ok taken ↔
      policy.WellFormed ∧ (taken = true ↔ policy.Takes unset labels) := by
  unfold WellFormed Takes
  cases selectorIs : policy.spec.selector with
  | none =>
      rw [selects_of_none selectorIs, Except.ok.injEq, Bool.eq_iff_iff, beq_iff_eq]
      simp [iff_comm]
  | some selector =>
      rw [selects_of_some selectorIs, Fallible.mapError_eq_ok_iff,
        LabelSelector.selects_eq_ok_iff]
      simp

theorem selects_eq_error_iff {fault : ResolveFault} :
    policy.selects unset labels = .error fault ↔ policy.FailsWith fault := by
  unfold FailsWith
  cases selectorIs : policy.spec.selector with
  | none =>
      rw [selects_of_none selectorIs]
      simp
  | some selector =>
      rw [selects_of_some selectorIs, Fallible.mapError_eq_error_iff]
      simp only [LabelSelector.selects_eq_error_iff, Option.some.injEq]
      constructor
      · intro failed
        obtain ⟨reason, parses, renamed⟩ := failed
        exact ⟨selector, reason, rfl, parses, renamed.symm⟩
      · intro failed
        obtain ⟨_, reason, rfl, parses, named⟩ := failed
        exact ⟨reason, parses, named.symm⟩

theorem selects_eq_true_iff :
    policy.selects unset labels = .ok true ↔ policy.Matches unset labels := by
  rw [selects_eq_ok_iff]
  simp [Matches]

instance : Decidable (policy.Matches unset labels) :=
  match answer : policy.selects unset labels with
  | .ok true => .isTrue (selects_eq_true_iff.mp answer)
  | .ok false => .isFalse fun matching =>
      nomatch (selects_eq_true_iff.mpr matching).symm.trans answer
  | .error _ => .isFalse fun matching =>
      nomatch (selects_eq_true_iff.mpr matching).symm.trans answer

/-- A malformed policy has one fault, and a well-formed one has none. -/
theorem not_wellFormed_iff : ¬ policy.WellFormed ↔ ∃ fault, policy.FailsWith fault := by
  cases answer : policy.selects .matchNone .empty with
  | ok taken =>
      have wellFormed := (selects_eq_ok_iff.mp answer).1
      refine ⟨fun malformed => absurd wellFormed malformed, ?_⟩
      intro failed
      obtain ⟨fault, fails⟩ := failed
      cases answer.symm.trans (selects_eq_error_iff.mpr fails)
  | error fault =>
      refine ⟨fun _ => ⟨fault, selects_eq_error_iff.mp answer⟩, fun _ wellFormed => ?_⟩
      obtain ⟨_, reason, selectorIs, parses, _⟩ := selects_eq_error_iff.mp answer
      obtain ⟨criteria, succeeds⟩ :=
        LabelSelector.parse_succeeds_iff.mpr (wellFormed _ selectorIs)
      cases parses.symm.trans succeeds

theorem FailsWith.unique {fault other : ResolveFault}
    (fails : policy.FailsWith fault) (alsoFails : policy.FailsWith other) : fault = other := by
  have answer : policy.selects .matchNone .empty = .error fault := selects_eq_error_iff.mpr fails
  have sameAnswer : policy.selects .matchNone .empty = .error other :=
    selects_eq_error_iff.mpr alsoFails
  exact Except.error.inj (answer.symm.trans sameAnswer)

end Candidate

/-! ### All candidates -/

variable (unset : UnsetSelector) (labels : Table String) (candidates : List Policy)

/-- The best of the matching candidates, and the earliest if several are tied. -/
structure IsBest (policy : Policy) : Prop where
  matching : policy.Matches unset labels
  highest : ∀ other ∈ candidates, other.Matches unset labels → other.RanksBelow policy
  earliest : ∃ position : Nat, candidates[position]? = some policy ∧
    ∀ earlier < position, ∀ other, candidates[earlier]? = some other →
      other.Matches unset labels → ¬ other.Tied policy

/-- The best of the matching candidates, or nothing if no candidate matches. -/
def IsOptimum : Option Policy → Prop
  | none => ∀ candidate ∈ candidates, ¬ candidate.Matches unset labels
  | some policy => IsBest unset labels candidates policy

/-- The candidate at a position is malformed, and no matching candidate before it has greater
weight, so that its selector is looked at. -/
def FailsAt (position : Nat) : Prop :=
  ∃ culprit, candidates[position]? = some culprit ∧ ¬ culprit.WellFormed ∧
    ∀ earlier < position, ∀ other, candidates[earlier]? = some other →
      other.Matches unset labels → other.spec.weight ≤ culprit.spec.weight

/-- The first of the positions at which the choice fails, with the fault of the policy there. -/
structure IsFirstFailure (position : Nat) (fault : ResolveFault) : Prop where
  fails : FailsAt unset labels candidates position
  first : ∀ earlier < position, ¬ FailsAt unset labels candidates earlier
  reason : ∃ culprit, candidates[position]? = some culprit ∧ culprit.FailsWith fault

/-- What the choice among the candidates has to come to. -/
def Outcome : Except ResolveFault (Option Policy) → Prop
  | .ok chosen =>
      (∀ position, ¬ FailsAt unset labels candidates position) ∧
        IsOptimum unset labels candidates chosen
  | .error fault => ∃ position, IsFirstFailure unset labels candidates position fault

variable {unset labels candidates}

theorem IsBest.mem {policy : Policy} (best : IsBest unset labels candidates policy) :
    policy ∈ candidates := by
  obtain ⟨position, found, _⟩ := best.earliest
  exact List.mem_of_getElem? found

/-- Two best policies stand at the same position. -/
theorem IsBest.unique {policy other : Policy} (best : IsBest unset labels candidates policy)
    (alsoBest : IsBest unset labels candidates other) : policy = other := by
  have tied : policy.Tied other :=
    (alsoBest.highest policy best.mem best.matching).tied
      (best.highest other alsoBest.mem alsoBest.matching)
  obtain ⟨position, found, noneBefore⟩ := best.earliest
  obtain ⟨otherPosition, otherFound, noneBeforeOther⟩ := alsoBest.earliest
  rcases Nat.lt_trichotomy position otherPosition with before | same | behind
  · exact absurd tied (noneBeforeOther position before policy found best.matching)
  · subst same
    exact Option.some.inj (found.symm.trans otherFound)
  · exact absurd tied.symm (noneBefore otherPosition behind other otherFound alsoBest.matching)

theorem IsOptimum.unique {chosen other : Option Policy}
    (optimum : IsOptimum unset labels candidates chosen)
    (alsoOptimum : IsOptimum unset labels candidates other) : chosen = other := by
  cases chosen with
  | none =>
      cases other with
      | none => rfl
      | some policy => exact absurd alsoOptimum.matching (optimum policy alsoOptimum.mem)
  | some policy =>
      cases other with
      | none => exact absurd optimum.matching (alsoOptimum policy optimum.mem)
      | some _ => exact congrArg some (IsBest.unique optimum alsoOptimum)

theorem IsFirstFailure.unique {position otherPosition : Nat} {fault otherFault : ResolveFault}
    (failure : IsFirstFailure unset labels candidates position fault)
    (alsoFailure : IsFirstFailure unset labels candidates otherPosition otherFault) :
    fault = otherFault := by
  have samePosition : position = otherPosition := by
    rcases Nat.lt_trichotomy position otherPosition with before | same | behind
    · exact absurd failure.fails (alsoFailure.first position before)
    · exact same
    · exact absurd alsoFailure.fails (failure.first otherPosition behind)
  subst samePosition
  obtain ⟨culprit, found, fails⟩ := failure.reason
  obtain ⟨_, alsoFound, alsoFails⟩ := alsoFailure.reason
  cases Option.some.inj (found.symm.trans alsoFound)
  exact fails.unique alsoFails

theorem Outcome.unique {result other : Except ResolveFault (Option Policy)}
    (outcome : Outcome unset labels candidates result)
    (alsoOutcome : Outcome unset labels candidates other) : result = other := by
  cases result with
  | ok chosen =>
      cases other with
      | ok _ => exact congrArg Except.ok (outcome.2.unique alsoOutcome.2)
      | error fault =>
          obtain ⟨position, failure⟩ := alsoOutcome
          exact absurd failure.fails (outcome.1 position)
  | error fault =>
      obtain ⟨position, failure⟩ := outcome
      cases other with
      | ok _ => exact absurd failure.fails (alsoOutcome.1 position)
      | error _ =>
          obtain ⟨_, alsoFailure⟩ := alsoOutcome
          exact congrArg Except.error (failure.unique alsoFailure)

/-! ### Policies to show the statements on -/

def webLabels : Table String :=
  .ofList [("app", "web")]

/-- A policy for objects that carry `webLabels`. -/
def webPolicy (name : String) (weight : Int32) : Policy where
  metadata := { name := some name, home := some "default" }
  spec := { weight, selector := some { matchLabels := some webLabels } }

/-- A policy with an operator that does not exist. -/
def brokenPolicy (name : String) (weight : Int32) : Policy where
  metadata := { name := some name, home := some "default" }
  spec := {
    weight
    selector := some { matchExpressions := some [{ key := "app", operator := "Like" }] } }

end AvailabilityGate.Policy
