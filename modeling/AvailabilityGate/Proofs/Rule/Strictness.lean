import AvailabilityGate.Proofs.Bound.Exactness
import AvailabilityGate.Proofs.Rule.Blame

/-!
Owns the order of policies by what they ask for, and with it the order of bounds.

Two bounds are compared only in one form. A greater percentage of a number of pods that is not negative
comes to no fewer pods, whatever the rounding; of a negative number it may come to fewer.

Main statement: a policy that asks for at least as much reports every field that the other one
reports, so it admits nothing that the other does not admit.
-/

namespace AvailabilityGate

namespace Bound

/-- A count, or a percentage with a number of 32 bits. -/
inductive Valid : Bound → Prop where
  | count (value : Int32) : Valid (.count value)
  | percentage {written : String} {percent : Int32}
      (denotes : Percentage.Denotes written percent.toInt) : Valid (.text written)

/-- Two bounds of one form, the second no less than the first. -/
inductive AtMost : Bound → Bound → Prop where
  | count {value other : Int32} (ordered : value ≤ other) : AtMost (.count value) (.count other)
  | percentage {written otherWritten : String} {percent other : Int32}
      (denotes : Percentage.Denotes written percent.toInt)
      (otherDenotes : Percentage.Denotes otherWritten other.toInt) (ordered : percent ≤ other) :
      AtMost (.text written) (.text otherWritten)

variable {bound other : Bound} {rounding : Rounding} {total count : Int32}

/-- What resolves is valid. -/
theorem valid_of_resolve (resolves : bound.resolve rounding total = .ok count) : bound.Valid := by
  cases bound with
  | count value => exact .count value
  | text written =>
      cases read : Percentage.parse? written with
      | none =>
          rw [resolve_text_of_unread read] at resolves
          cases resolves
      | some percent => exact .percentage (Percentage.parse?_eq_some_iff.mp read)

/-- The order of bounds is that of the counts that they resolve to. -/
theorem AtMost.resolve (atMost : bound.AtMost other) (nonnegative : 0 ≤ total)
    (rounding : Rounding) :
    ∃ least most, bound.resolve rounding total = .ok least ∧
      other.resolve rounding total = .ok most ∧ least ≤ most := by
  cases atMost with
  | count ordered => exact ⟨_, _, rfl, rfl, ordered⟩
  | percentage denotes otherDenotes ordered =>
      refine ⟨_, _, resolve_text_of_denotes denotes rounding total,
        resolve_text_of_denotes otherDenotes rounding total, ?_⟩
      rw [Int32.le_iff_toInt_le, toInt_count, toInt_count]
      have percents := Int32.le_iff_toInt_le.mp ordered
      have positive := Int32.le_iff_toInt_le.mp nonnegative
      exact exactCount_mono (Int.mul_le_mul_of_nonneg_right percents positive) rounding

end Bound

/-- The other limit asks for as much as the first or more. -/
def Comparison.AsksNoLess (limit other : Bound) : Comparison → Prop
  | .leastSurge => limit.AtMost other
  | .mostSurge => other.AtMost limit
  | .mostUnavailable => other.AtMost limit

/-- What keeps a limit that asks for more keeps the limit that asks for less. -/
theorem Comparison.AsksNoLess.holds {comparison : Comparison} {limit other : Bound}
    {total allowed : Int32} (asks : comparison.AsksNoLess limit other)
    (nonnegative : 0 ≤ total) (resolves : limit.resolve .up total = .ok allowed) :
    ∃ otherAllowed, other.resolve .up total = .ok otherAllowed ∧
      ∀ seen, comparison.Holds seen otherAllowed → comparison.Holds seen allowed := by
  cases comparison with
  | leastSurge =>
      obtain ⟨least, most, limitIs, otherIs, ordered⟩ := Bound.AtMost.resolve asks nonnegative .up
      obtain rfl : allowed = least := Except.ok.inj (resolves.symm.trans limitIs)
      exact ⟨most, otherIs, fun seen holds => Int32.le_trans ordered holds⟩
  | mostSurge =>
      obtain ⟨least, most, otherIs, limitIs, ordered⟩ := Bound.AtMost.resolve asks nonnegative .up
      obtain rfl : allowed = most := Except.ok.inj (resolves.symm.trans limitIs)
      exact ⟨least, otherIs, fun seen holds => Int32.le_trans holds ordered⟩
  | mostUnavailable =>
      obtain ⟨least, most, otherIs, limitIs, ordered⟩ := Bound.AtMost.resolve asks nonnegative .up
      obtain rfl : allowed = most := Except.ok.inj (resolves.symm.trans limitIs)
      exact ⟨least, otherIs, fun seen holds => Int32.le_trans holds ordered⟩

namespace PolicySpec

/-- The stricter policy has every section of the other one, with as many replicas or more, the same
strategy type, limits in the same form that ask for no less, and every resource that is flagged. A
limit that is neither a count nor a percentage binds nobody, and need not be kept. -/
structure AtLeastAsStrict (stricter spec : PolicySpec) : Prop where
  replicas : ∀ rule ∈ spec.replicas, ∃ other ∈ stricter.replicas, rule.minimum ≤ other.minimum
  strategy : ∀ rule ∈ spec.strategy, ∃ other ∈ stricter.strategy, other.type = rule.type
  limits : ∀ (comparison : Comparison), ∀ limit ∈ spec.limit? comparison, limit.Valid →
    ∃ other ∈ stricter.limit? comparison, comparison.AsksNoLess limit other
  resources : ∀ rule ∈ spec.resources, ∃ other ∈ stricter.resources,
    ∀ kind resource, rule.Flags kind resource → other.Flags kind resource

variable {spec stricter : PolicySpec} {deployment : Deployment} {path : FieldPath}
  {comparison : Comparison} {rollout : Rollout} {limit : Bound}

theorem limit?_eq_some_iff :
    spec.limit? comparison = some limit ↔
      ∃ rule limits, spec.strategy = some rule ∧ rule.rollingUpdate = some limits ∧
        comparison.limit? limits = some limit := by
  unfold limit?
  simp only [Option.bind_eq_bind, Option.bind_eq_some_iff]
  constructor
  · rintro ⟨rule, isSet, limits, limitsAre, limitIs⟩
    exact ⟨rule, limits, isSet, limitsAre, limitIs⟩
  · rintro ⟨rule, limits, isSet, limitsAre, limitIs⟩
    exact ⟨rule, isSet, limits, limitsAre, limitIs⟩

/-- The stricter policy comes to the same comparison, and it fails there as well. -/
theorem AtLeastAsStrict.exists_fails (strict : stricter.AtLeastAsStrict spec)
    (counts : ∀ replicas ∈ deployment.replicas, 0 ≤ replicas)
    (judges : spec.Judges deployment rollout) (fails : comparison.Fails rollout) :
    ∃ other, stricter.Judges deployment other ∧ comparison.Fails other := by
  obtain ⟨rule, isSet, ruleJudges⟩ := judges
  obtain ⟨limit, seen, allowed, compares, breaks⟩ := fails
  have limitIs : spec.limit? comparison = some limit :=
    limit?_eq_some_iff.mpr ⟨rule, rollout.limits, isSet, ruleJudges.limits, compares.isSet⟩
  obtain ⟨other, otherIs, asks⟩ :=
    strict.limits comparison limit limitIs (Bound.valid_of_resolve compares.limit)
  obtain ⟨otherRule, otherLimits, otherIsSet, otherLimitsAre, otherLimitIs⟩ :=
    limit?_eq_some_iff.mp otherIs
  obtain ⟨sameRule, sameRuleIsSet, sameType⟩ := strict.strategy rule isSet
  obtain rfl : sameRule = otherRule := Option.some.inj (sameRuleIsSet.symm.trans otherIsSet)
  obtain ⟨otherAllowed, otherResolves, keeps⟩ :=
    asks.holds (counts _ ruleJudges.replicas) compares.limit
  refine ⟨⟨rollout.replicas, rollout.bounds, otherLimits⟩, ⟨sameRule, otherIsSet, ?_⟩,
    other, seen, otherAllowed, ⟨otherLimitIs, compares.observed, otherResolves⟩,
    fun holds => breaks (keeps seen holds)⟩
  exact {
    sameType := ruleJudges.sameType.trans sameType.symm
    rolling := sameType.trans ruleJudges.rolling
    bounds := ruleJudges.bounds
    replicas := ruleJudges.replicas
    limits := otherLimitsAre }

theorem AtLeastAsStrict.blames (strict : stricter.AtLeastAsStrict spec)
    (counts : ∀ replicas ∈ deployment.replicas, 0 ≤ replicas)
    (blames : spec.Blames deployment path) : stricter.Blames deployment path := by
  cases blames with
  | replicas isSet few =>
      obtain ⟨other, otherIsSet, ordered⟩ := strict.replicas _ isSet
      exact .replicas otherIsSet fun replicas replicasAre =>
        Int32.lt_of_lt_of_le (few replicas replicasAre) ordered
  | otherType isSet differs =>
      obtain ⟨other, otherIsSet, sameType⟩ := strict.strategy _ isSet
      exact .otherType otherIsSet (sameType ▸ differs)
  | noRollingUpdate isSet same rolling absent =>
      obtain ⟨other, otherIsSet, sameType⟩ := strict.strategy _ isSet
      exact .noRollingUpdate otherIsSet (same.trans sameType.symm) (sameType.trans rolling) absent
  | bound judges fails =>
      obtain ⟨other, otherJudges, otherFails⟩ := strict.exists_fails counts judges fails
      exact .bound otherJudges otherFails
  | resource isSet member flagged undeclared =>
      obtain ⟨other, otherIsSet, flags⟩ := strict.resources _ isSet
      exact .resource otherIsSet member (flags _ _ flagged) undeclared

/-- For a Deployment whose replicas are not negative, where it has any, a stricter policy reports every
field that the other one reports; so what it admits, the other one admits. -/
theorem stricter_reports_as_much (strict : stricter.AtLeastAsStrict spec)
    (counts : ∀ replicas ∈ deployment.replicas, 0 ≤ replicas) :
    (∀ violation ∈ (spec.validate deployment).violations,
      ∃ other ∈ (stricter.validate deployment).violations, other.field = violation.field) ∧
    (stricter.Accepts deployment → spec.Accepts deployment) := by
  constructor
  · intro violation member
    apply exists_violation_iff.mpr
    exact strict.blames counts (exists_violation_iff.mp ⟨violation, member, rfl⟩)
  · simp only [accepts_iff]
    intro accepts path blames
    exact accepts path (strict.blames counts blames)

/-- So much surge in a rolling update, so many replicas, and limits on some resources. -/
def askingFor (minSurge : String) (minimum : Int32) (limits : Table Bool) : PolicySpec where
  replicas := some ⟨minimum⟩
  strategy := some {
    type := "RollingUpdate", rollingUpdate := some { minSurge := some (.text minSurge) } }
  resources := some { limits }

/-- Some replicas with so many more during an update, and a limit on memory. -/
def withSurge (replicas surge : Int32) : Deployment where
  spec := some {
    replicas := some replicas
    strategy := some {
      type := some "RollingUpdate", rollingUpdate := some { maxSurge := some (.count surge) } }
    template := { spec := some { containers := [
      { name := "app", resources := some { limits := some (.ofList [("memory", "1Gi")]) } }] } } }

theorem askingFor_atLeastAsStrict (minimum : Int32) :
    (askingFor "+50%" minimum (.ofList [("memory", true)])).AtLeastAsStrict
      (askingFor "025%" minimum (.ofList [("cpu", false)])) where
  replicas := by
    rintro rule ⟨rfl⟩
    exact ⟨_, rfl, Int32.le_refl minimum⟩
  strategy := by
    rintro rule ⟨rfl⟩
    exact ⟨_, rfl, rfl⟩
  limits := by
    have quarter : Percentage.Denotes "025%" (25 : Int32).toInt :=
      ⟨"025".toList, .unsigned (by decide), by decide⟩
    have half : Percentage.Denotes "+50%" (50 : Int32).toInt :=
      ⟨"+50".toList, .plus (by decide), by decide⟩
    intro comparison limit isSet _
    cases comparison with
    | leastSurge =>
        obtain rfl : Bound.text "025%" = limit := Option.some.inj isSet
        exact ⟨.text "+50%", rfl, .percentage quarter half (by decide)⟩
    | mostSurge => cases isSet
    | mostUnavailable => cases isSet
  resources := by
    rintro rule ⟨rfl⟩
    refine ⟨_, rfl, fun kind resource flagged => ?_⟩
    have listed : (resource, true) ∈ [("cpu", false)] := by
      cases kind with
      | requests => cases flagged
      | limits => exact Table.mem_entries_iff.mpr flagged
    simp at listed

/-- Of four replicas, a quarter and the half: no pod is too few for both, and two are enough. -/
theorem stricter_reports_as_much_half :
    (askingFor "+50%" 2 (.ofList [("memory", true)])).AtLeastAsStrict
        (askingFor "025%" 2 (.ofList [("cpu", false)])) ∧
      (∀ replicas ∈ (withSurge 4 0).replicas, 0 ≤ replicas) ∧
      Comparison.leastSurge.violation (.count 0) (.text "025%") ∈
        ((askingFor "025%" 2 (.ofList [("cpu", false)])).validate (withSurge 4 0)).violations ∧
      (∃ other ∈
        ((askingFor "+50%" 2 (.ofList [("memory", true)])).validate (withSurge 4 0)).violations,
        other.field = Comparison.leastSurge.field) ∧
      (askingFor "025%" 2 (.ofList [("cpu", false)])).Accepts (withSurge 4 2) := by
  have strict := askingFor_atLeastAsStrict 2
  have counts : ∀ surge, ∀ replicas ∈ (withSurge 4 surge).replicas, 0 ≤ replicas := by
    rintro surge replicas ⟨rfl⟩
    decide
  have tooFew : Comparison.leastSurge.violation (.count 0) (.text "025%") ∈
      ((askingFor "025%" 2 (.ofList [("cpu", false)])).validate (withSurge 4 0)).violations := by
    decide +kernel
  have enough : (askingFor "+50%" 2 (.ofList [("memory", true)])).Accepts (withSurge 4 2) := by
    decide +kernel
  exact ⟨strict, counts 0, tooFew, (stricter_reports_as_much strict (counts 0)).1 _ tooFew,
    (stricter_reports_as_much strict (counts 2)).2 enough⟩

/-- Of less than no replicas a greater percentage is a smaller number, so the surge may be too small
for a quarter and large enough for the half. -/
example :
    (askingFor "+50%" (-4) (.ofList [("memory", true)])).Accepts (withSurge (-4) (-2)) ∧
      ¬ (askingFor "025%" (-4) (.ofList [("cpu", false)])).Accepts (withSurge (-4) (-2)) := by
  decide +kernel

end PolicySpec

end AvailabilityGate
