import AvailabilityGate.Policy.Basic
import AvailabilityGate.Proofs.Schema.Coverage
import AvailabilityGate.Schema.Policy

/-!
Owns how the published schema of policies compares with their decoding, part by part. What the
schema describes is decoded, but for one thing: a bound of a rolling update may be any whole number
to the schema, and to the decoder it is one of 32 bits.
-/

namespace AvailabilityGate

open Decode

/-- What the names lead to, one after the other. -/
def Json.at? (value : Json) (path : List String) : Option Json :=
  path.foldlM (fun part name => part.get? name) value

/-- A number is one of 32 bits with sign. -/
def Bound.Fits (value : Json) : Prop :=
  ∀ number, value = .int number → FitsInt32 number

theorem Bound.fits_null : Fits .null := by
  simp [Fits]

theorem Bound.follows_decode (notes : SchemaNotes) : Follows decode (.intOrText notes) Fits := by
  intro value valid notNull medium document spells
  obtain ⟨_, isNull⟩ | ⟨number, rfl⟩ | ⟨text, rfl⟩ := valid
  · exact absurd isNull notNull
  · cases spells
    have decodes_iff : Decodes decode medium (.int number) ↔ FitsInt32 number := by
      rw [Decodes, decode]
      split
      · next fits => exact iff_of_true ⟨_, rfl⟩ fits
      · next unfit => exact iff_of_false (by simp) unfit
    simpa [Fits] using decodes_iff
  · cases spells
    exact iff_of_true ⟨.text text, rfl⟩ (by simp [Fits])

/-! ### Selectors -/

theorem Requirement.follows_record : Follows record.loose Schema.requirement fun _ => True := by
  refine Record.follows_loose_all (fun name known => ?_) _
  simp only [record, List.mem_cons, List.not_mem_nil, or_false] at known
  rcases known with rfl | rfl | rfl
  · refine ⟨_, .head _, fun _ valid _ _ _ spelled => ?key⟩
    exact ((follows_text _).optional trivial valid).stores spelled _
  · refine ⟨_, .tail _ (.head _), fun _ valid _ _ _ spelled => ?operator⟩
    exact ((follows_text _).optional trivial valid).stores spelled _
  · refine ⟨_, .tail _ (.tail _ (.head _)), fun _ valid _ _ _ spelled => ?values⟩
    exact (((follows_text _).list rfl _).optional trivial valid).stores spelled _

theorem LabelSelector.follows_decode : Follows decode Schema.selector fun _ => True := by
  refine Record.follows_loose_all (fun name known => ?_) _
  simp only [record, List.mem_cons, List.not_mem_nil, or_false] at known
  rcases known with rfl | rfl
  · refine ⟨_, .tail _ (.head _), fun _ valid _ _ _ spelled => ?matchLabels⟩
    exact (((follows_text _).table rfl _).optional trivial valid).stores spelled _
  · refine ⟨_, .head _, fun _ valid _ _ _ spelled => ?matchExpressions⟩
    exact ((Requirement.follows_record.list rfl _).optional trivial valid).stores spelled _

/-! ### Rules -/

theorem ReplicasRule.follows_record : Follows record.strict Schema.replicas fun _ => True := by
  refine Record.follows_strict_all (fun name known => ?_) _ (by simp [record])
  simp only [record, List.mem_cons, List.not_mem_nil, or_false] at known
  subst known
  refine ⟨_, .head _, fun _ valid _ _ _ spelled => ?minimum⟩
  exact ((follows_int32 _).present rfl valid).stores spelled _

theorem ResourcesRule.follows_record : Follows record.strict Schema.resources fun _ => True := by
  refine Record.follows_strict_all (fun name known => ?_) _ (by simp [record])
  simp only [record, List.mem_cons, List.not_mem_nil, or_false] at known
  rcases known with rfl | rfl
  · refine ⟨_, .tail _ (.head _), fun _ valid _ _ _ spelled => ?requests⟩
    exact (((follows_bool _).table rfl _).present rfl valid).stores spelled _
  · refine ⟨_, .head _, fun _ valid _ _ _ spelled => ?limits⟩
    exact (((follows_bool _).table rfl _).present rfl valid).stores spelled _

/-- Something is asked of what stands at one name, and nothing of the rest. -/
def FitsAt (special : String) (Fits : Json → Prop) (name : String) (value : Json) : Prop :=
  name = special → Fits value

def RollingUpdateRule.BoundsFit (value : Json) : Prop :=
  record.AllFit (fun _ => Bound.Fits) value

theorem RollingUpdateRule.follows_record :
    Follows record.strict Schema.rollingUpdate BoundsFit := by
  refine Record.follows_strict (fun name known => ?_) _ (by simp [record])
  simp only [record, List.mem_cons, List.not_mem_nil, or_false] at known
  rcases known with rfl | rfl | rfl
  · refine ⟨_, .tail _ (.tail _ (.head _)), fun _ valid _ _ _ spelled => ?minSurge⟩
    exact ((Bound.follows_decode _).optional Bound.fits_null valid).stores spelled _
  · refine ⟨_, .head _, fun _ valid _ _ _ spelled => ?maxSurge⟩
    exact ((Bound.follows_decode _).optional Bound.fits_null valid).stores spelled _
  · refine ⟨_, .tail _ (.head _), fun _ valid _ _ _ spelled => ?maxUnavailable⟩
    exact ((Bound.follows_decode _).optional Bound.fits_null valid).stores spelled _

def StrategyRule.BoundsFit (value : Json) : Prop :=
  record.AllFit (FitsAt "rollingUpdate" RollingUpdateRule.BoundsFit) value

theorem StrategyRule.follows_record : Follows record.strict Schema.strategy BoundsFit := by
  have fitsNull : RollingUpdateRule.BoundsFit .null := by
    simp [RollingUpdateRule.BoundsFit, Record.AllFit, Json.get?]
  refine Record.follows_strict (fun name known => ?_) _ (by simp [record])
  simp only [record, List.mem_cons, List.not_mem_nil, or_false] at known
  rcases known with rfl | rfl
  · refine ⟨_, .tail _ (.head _), fun _ valid _ _ _ spelled => ?type⟩
    exact (((follows_text _).present rfl valid).stores spelled _).trans (by simp [FitsAt])
  · refine ⟨_, .head _, fun _ valid _ _ _ spelled => ?rollingUpdate⟩
    have takes := RollingUpdateRule.follows_record.optional fitsNull valid
    exact (takes.stores spelled _).trans (by simp [FitsAt])

namespace PolicySpec

/-- Bounds that are whole numbers fit 32 bits. -/
def BoundsFit (value : Json) : Prop :=
  ∀ name ∈ ["minSurge", "maxSurge", "maxUnavailable"], ∀ number,
    value.at? ["strategy", "rollingUpdate", name] = some (.int number) → FitsInt32 number

theorem boundsFit_iff {value : Json} :
    BoundsFit value ↔ record.AllFit (FitsAt "strategy" StrategyRule.BoundsFit) value := by
  unfold BoundsFit StrategyRule.BoundsFit RollingUpdateRule.BoundsFit
  unfold Record.AllFit FitsAt Bound.Fits
  simp [Json.at?, record, StrategyRule.record, RollingUpdateRule.record, Option.bind_eq_some_iff]
  grind

theorem follows_decode : Follows decode Schema.policySpec BoundsFit := by
  have fitsNull : StrategyRule.BoundsFit .null := by
    simp [StrategyRule.BoundsFit, Record.AllFit, Json.get?]
  have takes : Follows record.strict Schema.policySpec
      (record.AllFit (FitsAt "strategy" StrategyRule.BoundsFit)) := by
    refine Record.follows_strict (fun name known => ?_) _ (by simp [record])
    simp only [record, List.mem_cons, List.not_mem_nil, or_false] at known
    rcases known with rfl | rfl | rfl | rfl | rfl
    · refine ⟨_, .tail _ (.tail _ (.tail _ (.tail _ (.head _)))),
        fun _ valid _ _ _ spelled => ?weight⟩
      exact (((follows_int32 _).present rfl valid).stores spelled _).trans (by simp [FitsAt])
    · refine ⟨_, .tail _ (.tail _ (.head _)), fun _ valid _ _ _ spelled => ?selector⟩
      have takes := LabelSelector.follows_decode.optional trivial valid
      exact (takes.stores spelled _).trans (by simp [FitsAt])
    · refine ⟨_, .head _, fun _ valid _ _ _ spelled => ?replicas⟩
      have takes := ReplicasRule.follows_record.optional trivial valid
      exact (takes.stores spelled _).trans (by simp [FitsAt])
    · refine ⟨_, .tail _ (.tail _ (.tail _ (.head _))), fun _ valid _ _ _ spelled => ?strategy⟩
      have takes := StrategyRule.follows_record.optional fitsNull valid
      exact (takes.stores spelled _).trans (by simp [FitsAt])
    · refine ⟨_, .tail _ (.head _), fun _ valid _ _ _ spelled => ?resources⟩
      have takes := ResourcesRule.follows_record.optional trivial valid
      exact (takes.stores spelled _).trans (by simp [FitsAt])
  intro value valid notNull
  exact (takes valid notNull).congr boundsFit_iff.symm

end PolicySpec

end AvailabilityGate
