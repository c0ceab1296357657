import AvailabilityGate.Governing
import AvailabilityGate.Proofs.ByteOrder

/-!
Owns the ranking of policies by which the governing one is chosen: the greater weight first, and
among equal weights the name that comes first, byte by byte. The ranking is transitive, and two
policies that it does not tell apart agree in weight and name.
-/

namespace AvailabilityGate.Policy

/-- Agree in all that the ranking looks at. -/
def Tied (left right : Policy) : Prop :=
  left.spec.weight = right.spec.weight ∧ left.displayName = right.displayName

/-- Ranks no higher than `best`. -/
def RanksBelow (policy best : Policy) : Prop :=
  policy.spec.weight < best.spec.weight ∨
    (policy.spec.weight = best.spec.weight ∧
      Text.bytes best.displayName ≤ Text.bytes policy.displayName)

variable {first second third : Policy}

theorem Preferred.weight_le (preferred : first.Preferred second) :
    second.spec.weight ≤ first.spec.weight := by
  rcases preferred with heavier | ⟨sameWeight, _⟩
  · exact Int32.le_of_lt heavier
  · exact Int32.le_of_eq sameWeight

theorem Preferred.trans (upper : first.Preferred second) (lower : second.Preferred third) :
    first.Preferred third := by
  rcases upper with heavier | ⟨sameWeight, nameBefore⟩
  · exact .inl (Int32.lt_of_le_of_lt lower.weight_le heavier)
  · rcases lower with heavier | ⟨sameWeightBelow, nameBeforeBelow⟩
    · exact .inl (sameWeight ▸ heavier)
    · exact .inr ⟨sameWeightBelow.trans sameWeight, String.lt_trans nameBefore nameBeforeBelow⟩

theorem Tied.preferred_left (tied : first.Tied second) (preferred : second.Preferred third) :
    first.Preferred third := by
  obtain ⟨sameWeight, sameName⟩ := tied
  unfold Preferred at preferred ⊢
  rw [sameWeight, sameName]
  exact preferred

theorem Tied.symm (tied : first.Tied second) : second.Tied first :=
  ⟨tied.1.symm, tied.2.symm⟩

theorem not_preferred_of_lighter (lighter : first.spec.weight < second.spec.weight) :
    ¬ first.Preferred second := by
  intro preferred
  exact Int32.not_le.mpr lighter preferred.weight_le

theorem not_preferred_iff : ¬ first.Preferred second ↔ first.RanksBelow second := by
  unfold Preferred RanksBelow
  rw [Text.bytes_le_bytes_iff, not_or, not_and, Int32.not_lt, String.not_lt,
    Int32.le_iff_lt_or_eq]
  constructor
  · rintro ⟨lighter | sameWeight, nameNotBefore⟩
    · exact .inl lighter
    · exact .inr ⟨sameWeight, nameNotBefore sameWeight.symm⟩
  · rintro (lighter | ⟨sameWeight, nameNotBefore⟩)
    · exact ⟨.inl lighter, fun sameWeight => absurd (sameWeight ▸ lighter) Int32.lt_irrefl⟩
    · exact ⟨.inr sameWeight, fun _ => nameNotBefore⟩

theorem RanksBelow.weight_le (below : first.RanksBelow second) :
    first.spec.weight ≤ second.spec.weight := by
  rcases below with lighter | ⟨sameWeight, _⟩
  · exact Int32.le_of_lt lighter
  · exact Int32.le_of_eq sameWeight

/-- Neither of two policies ranks higher only if they are tied. -/
theorem RanksBelow.tied (below : first.RanksBelow second) (above : second.RanksBelow first) :
    first.Tied second := by
  have sameWeight : first.spec.weight = second.spec.weight :=
    Int32.le_antisymm below.weight_le above.weight_le
  rcases below with lighter | ⟨_, secondNotAfter⟩
  · exact absurd (sameWeight ▸ lighter) Int32.lt_irrefl
  · rcases above with lighter | ⟨_, firstNotAfter⟩
    · exact absurd (sameWeight ▸ lighter) Int32.lt_irrefl
    · rw [Text.bytes_le_bytes_iff] at secondNotAfter firstNotAfter
      exact ⟨sameWeight, String.le_antisymm firstNotAfter secondNotAfter⟩

theorem Tied.ranksBelow (tied : first.Tied second) : first.RanksBelow second := by
  have notAfter : second.displayName ≤ first.displayName :=
    tied.2 ▸ String.le_refl first.displayName
  exact .inr ⟨tied.1, (Text.bytes_le_bytes_iff _ _).mpr notAfter⟩

end AvailabilityGate.Policy
