/-!
Owns what the success and the failure of a composed computation say about its parts, for
computations that give a value or a fault.
-/

namespace AvailabilityGate.Fallible

universe u v

variable {α β : Type u} {ε : Type v}

theorem bind_eq_ok_iff {first : Except ε α} {next : α → Except ε β} {result : β} :
    first >>= next = .ok result ↔ ∃ value, first = .ok value ∧ next value = .ok result := by
  cases first with
  | error fault => simp [bind, Except.bind]
  | ok value => simp [bind, Except.bind]

theorem bind_eq_error_iff {first : Except ε α} {next : α → Except ε β} {fault : ε} :
    first >>= next = .error fault ↔
      first = .error fault ∨ ∃ value, first = .ok value ∧ next value = .error fault := by
  cases first with
  | error cause => simp [bind, Except.bind]
  | ok value => simp [bind, Except.bind]

theorem map_eq_ok_iff {first : Except ε α} {convert : α → β} {result : β} :
    convert <$> first = .ok result ↔ ∃ value, first = .ok value ∧ convert value = result := by
  cases first with
  | error fault => simp [Functor.map, Except.map]
  | ok value => simp [Functor.map, Except.map]

/-- A check and what comes behind it. -/
theorem check_bind_eq_ok_iff {check : Except ε PUnit} {next : PUnit → Except ε β} {result : β} :
    check >>= next = .ok result ↔ check = .ok ⟨⟩ ∧ next ⟨⟩ = .ok result := by
  rw [bind_eq_ok_iff]
  constructor
  · intro split
    obtain ⟨_, passes, succeeds⟩ := split
    exact ⟨passes, succeeds⟩
  · intro both
    obtain ⟨passes, succeeds⟩ := both
    exact ⟨⟨⟩, passes, succeeds⟩

theorem mapError_eq_ok_iff {ε' : Type v} {first : Except ε α} {rename : ε → ε'} {value : α} :
    first.mapError rename = .ok value ↔ first = .ok value := by
  cases first with
  | error cause =>
      show Except.error (rename cause) = .ok value ↔ _
      simp
  | ok given =>
      show Except.ok given = .ok value ↔ _
      simp

theorem mapError_eq_error_iff {ε' : Type v} {first : Except ε α} {rename : ε → ε'} {fault : ε'} :
    first.mapError rename = .error fault ↔ ∃ cause, first = .error cause ∧ rename cause = fault := by
  cases first with
  | error cause =>
      show Except.error (rename cause) = .error fault ↔ _
      simp
  | ok given =>
      show Except.ok given = .error fault ↔ _
      simp

theorem ite_error_eq_ok_iff {fails : Prop} [Decidable fails] {fault : ε} {rest : Except ε α}
    {value : α} :
    (if fails then .error fault else rest : Except ε α) = .ok value ↔ ¬fails ∧ rest = .ok value := by
  split <;> simp_all

theorem ite_ok_eq_ok_iff {passes : Prop} [Decidable passes] {fault : ε} {value : α} :
    (if passes then .ok value else .error fault : Except ε α) = .ok value ↔ passes := by
  split <;> simp_all

/-- A list of checks passes if each of them passes. -/
theorem forM_eq_ok_iff {check : α → Except ε PUnit} {items : List α} :
    items.forM check = .ok ⟨⟩ ↔ ∀ item ∈ items, check item = .ok ⟨⟩ := by
  induction items with
  | nil => simp [pure, Except.pure]
  | cons head tail inductionHypothesis =>
      rw [List.forM_eq_forM] at inductionHypothesis ⊢
      rw [List.forM_cons, check_bind_eq_ok_iff, inductionHypothesis, List.forall_mem_cons]

/-- A list of checks fails with the fault of the first that fails. -/
theorem forM_eq_error_iff {check : α → Except ε PUnit} {items : List α} {fault : ε} :
    items.forM check = .error fault ↔
      ∃ before item after, items = before ++ item :: after ∧
        (∀ earlier ∈ before, check earlier = .ok ⟨⟩) ∧ check item = .error fault := by
  constructor
  · intro fails
    induction items with
    | nil => cases fails
    | cons head tail inductionHypothesis =>
        rw [List.forM_eq_forM] at inductionHypothesis fails
        rw [List.forM_cons] at fails
        rcases bind_eq_error_iff.mp fails with headFails | ⟨_, headPasses, tailFails⟩
        · exact ⟨[], head, tail, rfl, by simp, headFails⟩
        · obtain ⟨before, item, after, rfl, pass, itemFails⟩ := inductionHypothesis tailFails
          exact ⟨head :: before, item, after, rfl,
            List.forall_mem_cons.mpr ⟨headPasses, pass⟩, itemFails⟩
  · rintro ⟨before, item, after, rfl, pass, itemFails⟩
    have beforePasses := forM_eq_ok_iff.mpr pass
    rw [List.forM_eq_forM] at beforePasses ⊢
    rw [List.forM_append, beforePasses, List.forM_cons, itemFails]
    rfl

/-- Checks of several lists, one list after another. -/
theorem forM_flatMap {γ : Type u} {parts : γ → List α} {check : α → Except ε PUnit}
    {items : List γ} :
    (items.flatMap parts).forM check = items.forM fun item => (parts item).forM check := by
  induction items with
  | nil => rfl
  | cons head tail inductionHypothesis =>
      simp only [List.forM_eq_forM] at inductionHypothesis ⊢
      rw [List.flatMap_cons, List.forM_append, List.forM_cons, inductionHypothesis]

theorem mapM_cons_eq_ok_iff {read : α → Except ε β} {head : α} {tail : List α} {values : List β} :
    (head :: tail).mapM read = .ok values ↔
      ∃ first rest, read head = .ok first ∧ tail.mapM read = .ok rest ∧ values = first :: rest := by
  rw [List.mapM_cons, bind_eq_ok_iff]
  constructor
  · intro succeeds
    obtain ⟨first, headReads, remainder⟩ := succeeds
    obtain ⟨rest, tailReads, same⟩ := bind_eq_ok_iff.mp remainder
    exact ⟨first, rest, headReads, tailReads, (Except.ok.inj same).symm⟩
  · intro parts
    obtain ⟨first, rest, headReads, tailReads, rfl⟩ := parts
    exact ⟨first, headReads, bind_eq_ok_iff.mpr ⟨rest, tailReads, rfl⟩⟩

/-- A list is read if each of its items is. -/
theorem mapM_succeeds_iff {read : α → Except ε β} {items : List α} :
    (∃ values, items.mapM read = .ok values) ↔
      ∀ item ∈ items, ∃ value, read item = .ok value := by
  induction items with
  | nil => exact ⟨fun _ _ member => absurd member List.not_mem_nil, fun _ => ⟨[], rfl⟩⟩
  | cons head tail inductionHypothesis =>
      constructor
      · intro readable item member
        obtain ⟨values, succeeds⟩ := readable
        obtain ⟨first, rest, headReads, tailReads, _⟩ := mapM_cons_eq_ok_iff.mp succeeds
        rcases List.mem_cons.mp member with same | later
        · exact ⟨first, same ▸ headReads⟩
        · exact inductionHypothesis.mp ⟨rest, tailReads⟩ item later
      · intro allRead
        obtain ⟨first, headReads⟩ := allRead head List.mem_cons_self
        obtain ⟨rest, tailReads⟩ := inductionHypothesis.mpr fun item member =>
          allRead item (List.mem_cons_of_mem head member)
        exact ⟨first :: rest, mapM_cons_eq_ok_iff.mpr ⟨first, rest, headReads, tailReads, rfl⟩⟩

/-- The fault with which a list is not read is that of one of its items. -/
theorem exists_of_mapM_eq_error {read : α → Except ε β} {items : List α} {fault : ε}
    (fails : items.mapM read = .error fault) : ∃ item ∈ items, read item = .error fault := by
  induction items with
  | nil => cases fails
  | cons head tail inductionHypothesis =>
      rw [List.mapM_cons] at fails
      rcases bind_eq_error_iff.mp fails with headFails | ⟨_, _, restFails⟩
      · exact ⟨head, List.mem_cons_self, headFails⟩
      · rcases bind_eq_error_iff.mp restFails with tailFails | ⟨_, _, impossible⟩
        · obtain ⟨item, member, itemFails⟩ := inductionHypothesis tailFails
          exact ⟨item, List.mem_cons_of_mem head member, itemFails⟩
        · cases impossible

/-- What is read from a list is what is read from its items. -/
theorem mem_iff_of_mapM_eq_ok {read : α → Except ε β} {items : List α} {values : List β}
    (succeeds : items.mapM read = .ok values) (value : β) :
    value ∈ values ↔ ∃ item ∈ items, read item = .ok value := by
  induction items generalizing values with
  | nil =>
      cases Except.ok.inj succeeds
      simp
  | cons head tail inductionHypothesis =>
      obtain ⟨first, rest, headReads, tailReads, rfl⟩ := mapM_cons_eq_ok_iff.mp succeeds
      rw [List.mem_cons, inductionHypothesis tailReads]
      constructor
      · intro among
        rcases among with rfl | ⟨item, member, reads⟩
        · exact ⟨head, List.mem_cons_self, headReads⟩
        · exact ⟨item, List.mem_cons_of_mem head member, reads⟩
      · intro source
        obtain ⟨item, member, reads⟩ := source
        rcases List.mem_cons.mp member with rfl | later
        · exact .inl (Except.ok.inj (reads.symm.trans headReads))
        · exact .inr ⟨item, later, reads⟩

/-- A change that every step passes on to the next one is passed on by all of them. -/
theorem foldlM_eq_map_of_step {step changedStep : β → α → Except ε β} {change : β → β}
    {items : List α}
    (passes : ∀ item ∈ items, ∀ before,
      changedStep (change before) item = change <$> step before item)
    (before : β) :
    items.foldlM changedStep (change before) = change <$> items.foldlM step before := by
  induction items generalizing before with
  | nil => rfl
  | cons head tail inductionHypothesis =>
      obtain ⟨passesHead, passesTail⟩ := List.forall_mem_cons.mp passes
      rw [List.foldlM_cons, List.foldlM_cons, passesHead]
      cases step before head with
      | error fault => rfl
      | ok after => exact inductionHypothesis passesTail after

end AvailabilityGate.Fallible
