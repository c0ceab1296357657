import AvailabilityGate.Proofs.Decode.Fields

/-!
Owns what the members of a record do to each other. They are stored one run after the other, and
where each field is stored once, what stands in a field that was stored is no longer looked at.

Main statement: whatever was stored in a field, the members behind it are stored alike.
-/

namespace AvailabilityGate.Decode.Record

open Fallible

variable {α : Type} (record : Record α) {medium : Medium}

theorem setMembers_append (once : Bool) (medium : Medium) (seen : List String) (before : α)
    (first second : Document.Members) :
    record.setMembers once medium seen before (first ++ second) =
      record.setMembers once medium seen before first >>= fun stored =>
        record.setMembers once medium stored.2 stored.1 second := by
  induction first generalizing seen before with
  | nil => rfl
  | cons head tail inductionHypothesis =>
      obtain ⟨named, document⟩ := head
      rw [List.cons_append, setMembers, setMembers, bind_assoc]
      congr 1
      funext name
      split
      · split
        · rfl
        · simp only [inductionHypothesis, bind_assoc]
      · simp only [inductionHypothesis, bind_assoc]

/-- Changing the record in this way and storing any other field can be done in either order. -/
def Passes (record : Record α) (field : String) (change : α → α) : Prop :=
  ∀ ⦃name medium document value⦄, name ∈ record.fields → name ≠ field →
    record.set name medium document (change value) =
      (record.set name medium document value).map change

variable {record} {field : String} {change : α → α}

theorem Passes.withinMember_eq (passes : record.Passes field change) (medium : Medium)
    {name : String} (known : name ∈ record.fields) (other : name ≠ field) (document : Document)
    (value : α) :
    withinMember name document (record.set name medium document (change value)) =
      (withinMember name document (record.set name medium document value)).map change := by
  rw [passes known other]
  unfold withinMember
  cases record.set name medium document value <;> split <;> rfl

theorem Passes.setMembers_eq (passes : record.Passes field change) (members : Document.Members)
    {seen : List String} (isSeen : field ∈ seen) (value : α) :
    record.setMembers true medium seen (change value) members =
      (record.setMembers true medium seen value members).map fun stored =>
        (change stored.1, stored.2) := by
  induction members generalizing seen value with
  | nil => rfl
  | cons head tail inductionHypothesis =>
      obtain ⟨named, document⟩ := head
      rw [setMembers, setMembers]
      cases memberName named with
      | error failure => rfl
      | ok name =>
          by_cases known : name ∈ record.fields
          · by_cases repeated : name ∈ seen
            · simp [known, repeated, bind, Except.bind, Except.map, fail]
            · have other : name ≠ field := fun same => repeated (same ▸ isSeen)
              have continued := inductionHypothesis (List.mem_cons_of_mem name isSeen)
              have placed := passes.withinMember_eq medium known other document value
              cases stored : withinMember name document (record.set name medium document value) with
              | error failure =>
                  simp [known, repeated, placed, stored, bind, Except.bind, Except.map]
              | ok after =>
                  simp [known, repeated, placed, stored, continued, bind, Except.bind, Except.map]
          · have continued := inductionHypothesis isSeen value
            cases looked : withinMember name document (ignore document) with
            | error failure => simp [known, looked, bind, Except.bind, Except.map]
            | ok _ => simp [known, looked, continued, bind, Except.bind]

theorem ofMembers_eq_ok_iff {members : Document.Members} {ending : Option SyntaxFault}
    {result : α} :
    record.ofMembers medium members ending = .ok result ↔
      ∃ stored, record.setMembers true medium [] record.empty members = .ok (result, stored) ∧
        endMembers ending = .ok () ∧ record.requireFields stored = .ok () := by
  rw [ofMembers, bind_eq_ok_iff]
  simp only [check_bind_eq_ok_iff]
  constructor
  · rintro ⟨⟨value, stored⟩, members, ends, required, isResult⟩
    cases isResult
    exact ⟨stored, members, ends, required⟩
  · rintro ⟨stored, members, ends, required⟩
    exact ⟨(result, stored), members, ends, required, rfl⟩

/-! ### One field among others -/

section Around

variable {document other : Document} {pre post : Document.Members} {seen : List String} {before : α}
  (known : field ∈ record.fields)
include known

theorem setMembers_around_eq_ok_iff {stored : α × List String} :
    record.setMembers true medium seen before (pre ++ (.ok field, document) :: post) = .ok stored ↔
      ∃ earlier seenEarlier later,
        record.setMembers true medium seen before pre = .ok (earlier, seenEarlier) ∧
        field ∉ seenEarlier ∧ record.set field medium document earlier = .ok later ∧
        record.setMembers true medium (field :: seenEarlier) later post = .ok stored := by
  rw [setMembers_append, bind_eq_ok_iff]
  constructor
  · rintro ⟨⟨earlier, seenEarlier⟩, first, second⟩
    by_cases repeated : field ∈ seenEarlier
    · simp [setMembers, memberName, known, repeated, fail, bind, Except.bind] at second
    · rw [setMembers_cons_of_known known repeated, bind_eq_ok_iff] at second
      obtain ⟨later, placed, rest⟩ := second
      exact ⟨earlier, seenEarlier, later, first, repeated, withinMember_eq_ok_iff.mp placed, rest⟩
  · rintro ⟨earlier, seenEarlier, later, first, fresh, placed, rest⟩
    refine ⟨(earlier, seenEarlier), first, ?_⟩
    rw [setMembers_cons_of_known known fresh, bind_eq_ok_iff]
    exact ⟨later, withinMember_eq_ok_iff.mpr placed, rest⟩

theorem setMembers_around_replaced (passes : record.Passes field change)
    (replaces : ∀ value after, record.set field medium document value = .ok after →
      record.set field medium other value = .ok (change after)) {stored : α × List String}
    (succeeds : record.setMembers true medium seen before (pre ++ (.ok field, document) :: post) =
      .ok stored) :
    record.setMembers true medium seen before (pre ++ (.ok field, other) :: post) =
      .ok (change stored.1, stored.2) := by
  obtain ⟨earlier, seenEarlier, later, first, fresh, placed, rest⟩ :=
    (setMembers_around_eq_ok_iff known).mp succeeds
  refine (setMembers_around_eq_ok_iff known).mpr
    ⟨earlier, seenEarlier, change later, first, fresh, replaces _ _ placed, ?_⟩
  rw [passes.setMembers_eq post List.mem_cons_self, rest]
  rfl

/-- A record that is read is also read with one of its fields replaced, and changed by that. -/
theorem strict_around_replaced (passes : record.Passes field change)
    (replaces : ∀ value after, record.set field medium document value = .ok after →
      record.set field medium other value = .ok (change after)) {result : α}
    (succeeds : record.strict medium (.obj (pre ++ (.ok field, document) :: post) none) =
      .ok result) :
    record.strict medium (.obj (pre ++ (.ok field, other) :: post) none) = .ok (change result) := by
  obtain ⟨stored, members, ends, required⟩ := ofMembers_eq_ok_iff.mp succeeds
  exact ofMembers_eq_ok_iff.mpr
    ⟨stored, setMembers_around_replaced known passes replaces members, ends, required⟩

theorem otherMembers_around :
    record.otherMembers (pre ++ (.ok field, document) :: post) =
      record.otherMembers (pre ++ post) := by
  induction pre with
  | nil => rw [List.nil_append, List.nil_append, otherMembers, if_pos known]
  | cons head tail inductionHypothesis =>
      obtain ⟨named, _⟩ := head
      cases named with
      | error fault => exact inductionHypothesis
      | ok name =>
          rw [List.cons_append, List.cons_append, otherMembers, otherMembers, inductionHypothesis]

theorem openRecord_around_replaced (passes : record.Passes field change)
    (replaces : ∀ value after, record.set field medium document value = .ok after →
      record.set field medium other value = .ok (change after)) {result : α}
    {others : List (String × Document)}
    (succeeds : record.openRecord medium (.obj (pre ++ (.ok field, document) :: post) none) =
      .ok (result, others)) :
    record.openRecord medium (.obj (pre ++ (.ok field, other) :: post) none) =
      .ok (change result, others) := by
  obtain ⟨opened, read, kept⟩ := openRecord_eq_ok_iff.mp succeeds
  rw [OthersRead, otherMembers_around known] at read
  rw [otherMembers_around known] at kept
  refine openRecord_eq_ok_iff.mpr ⟨strict_around_replaced known passes replaces opened, ?_, ?_⟩
  · rwa [OthersRead, otherMembers_around known]
  · rwa [otherMembers_around known]

/-- A record that is read fails with one of its fields replaced by what is refused there, and for
the same cause: nothing fails before it. -/
theorem strict_around_refused {failure : DecodeFailure}
    (refuses : ∀ value, record.set field medium other value = .error failure) {result : α}
    (succeeds : record.strict medium (.obj (pre ++ (.ok field, document) :: post) none) =
      .ok result) :
    ∃ placed, record.strict medium (.obj (pre ++ (.ok field, other) :: post) none) = .error placed ∧
      placed.cause = failure.cause := by
  obtain ⟨_, members, _⟩ := ofMembers_eq_ok_iff.mp succeeds
  obtain ⟨earlier, seenEarlier, _, first, fresh, _⟩ :=
    (setMembers_around_eq_ok_iff known).mp members
  obtain ⟨placed, refused, cause⟩ := exists_withinMember_error (α := α) field other failure
  refine ⟨placed, bind_eq_error_iff.mpr (.inl ?_), cause⟩
  rw [setMembers_append, first]
  show record.setMembers true medium seenEarlier earlier ((.ok field, other) :: post) = _
  rw [setMembers_cons_of_known known fresh, refuses, refused]
  rfl

theorem openRecord_around_refused {failure : DecodeFailure}
    (refuses : ∀ value, record.set field medium other value = .error failure)
    {result : α × List (String × Document)}
    (succeeds : record.openRecord medium (.obj (pre ++ (.ok field, document) :: post) none) =
      .ok result) :
    ∃ placed, record.openRecord medium (.obj (pre ++ (.ok field, other) :: post) none) =
      .error placed ∧ placed.cause = failure.cause := by
  obtain ⟨opened, read, _⟩ := openRecord_eq_ok_iff.mp succeeds
  have readAround : record.OthersRead (pre ++ (.ok field, other) :: post) := by
    rw [OthersRead, otherMembers_around known] at read ⊢
    exact read
  obtain ⟨placed, refused, cause⟩ := strict_around_refused known refuses opened
  refine ⟨placed, ?_, cause⟩
  rw [openRecord_eq readAround, refused]
  rfl

/-- The field of a record that is read was stored. -/
theorem exists_set_of_strict {result : α}
    (succeeds : record.strict medium (.obj (pre ++ (.ok field, document) :: post) none) =
      .ok result) :
    ∃ earlier later, record.set field medium document earlier = .ok later := by
  obtain ⟨_, members, _⟩ := ofMembers_eq_ok_iff.mp succeeds
  exact exists_set_of_mem members (by simp) known

theorem exists_set_of_openRecord {result : α × List (String × Document)}
    (succeeds : record.openRecord medium (.obj (pre ++ (.ok field, document) :: post) none) =
      .ok result) :
    ∃ earlier later, record.set field medium document earlier = .ok later :=
  exists_set_of_strict known (openRecord_eq_ok_iff.mp succeeds).1

end Around

end AvailabilityGate.Decode.Record
