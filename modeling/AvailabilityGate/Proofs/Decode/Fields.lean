import AvailabilityGate.Proofs.Decode.Spelling

/-!
Owns what happens to the fields of a record when its document spells an object: each field that the
object has is stored once, the order is that of the document, and members of other names are passed
over.

Does not own what any one record stores.

Main statements: a property that each single storing keeps holds of the record that is read; an open
record whose other members can be kept is read like a strict one.
-/

namespace AvailabilityGate.Decode

open Fallible

namespace Record

variable {α : Type} {record : Record α}

/-! ### Members one by one -/

section Steps

variable {once : Bool} {medium : Medium} {seen : List String} {before : α} {name : String}
  {document : Document} {tail : Document.Members}

theorem setMembers_cons_of_known (known : name ∈ record.fields) (fresh : name ∉ seen) :
    record.setMembers once medium seen before ((.ok name, document) :: tail) =
      withinMember name document (record.set name medium document before) >>= fun after =>
        record.setMembers once medium (name :: seen) after tail := by
  rw [setMembers]
  simp [memberName, known, fresh, bind, Except.bind]

theorem setMembers_cons_of_unknown (unknown : name ∉ record.fields) (intact : document.Intact) :
    record.setMembers once medium seen before ((.ok name, document) :: tail) =
      record.setMembers once medium seen before tail := by
  have ignored : withinMember name document (ignore document) = .ok () :=
    withinMember_eq_ok_iff.mpr (ignore_eq_ok_iff.mpr intact)
  rw [setMembers]
  simp [memberName, unknown, ignored, bind, Except.bind]

end Steps

theorem setMembers_of_steps (once : Bool) {medium : Medium} (Holds : List String → α → Prop)
    {members : Document.Members}
    (named : ∀ member ∈ members, ∃ name, member.1 = .ok name)
    (distinct : (members.map Prod.fst).Nodup)
    (ignored : ∀ name document, (.ok name, document) ∈ members → name ∉ record.fields →
      document.Intact)
    (step : ∀ name document seen before, (.ok name, document) ∈ members → name ∈ record.fields →
      Holds seen before →
        ∃ after, record.set name medium document before = .ok after ∧ Holds (name :: seen) after)
    {seen : List String} {before : α}
    (fresh : ∀ name ∈ seen, .ok name ∉ members.map Prod.fst)
    (start : Holds seen before) :
    ∃ after stored, record.setMembers once medium seen before members = .ok (after, stored) ∧
      Holds stored after ∧ ∀ name, name ∈ stored ↔
        name ∈ seen ∨ name ∈ record.fields ∧ .ok name ∈ members.map Prod.fst := by
  induction members generalizing seen before with
  | nil => exact ⟨before, seen, rfl, start, by simp⟩
  | cons head tail inductionHypothesis =>
      obtain ⟨_, document⟩ := head
      obtain ⟨⟨name, rfl⟩, tailNamed⟩ := List.forall_mem_cons.mp named
      obtain ⟨nameAbsent, tailDistinct⟩ := List.nodup_cons.mp distinct
      have continued := @inductionHypothesis tailNamed tailDistinct
        (fun name document member => ignored name document (List.mem_cons_of_mem _ member))
        (fun name document seen before member =>
          step name document seen before (List.mem_cons_of_mem _ member))
      have tailFresh : ∀ name ∈ seen, .ok name ∉ tail.map Prod.fst := fun name member later =>
        fresh name member (List.mem_cons_of_mem _ later)
      have notSeen : name ∉ seen := fun member => fresh name member List.mem_cons_self
      by_cases known : name ∈ record.fields
      · obtain ⟨after, stored, holds⟩ :=
          step name document seen before List.mem_cons_self known start
        have laterFresh : ∀ other ∈ name :: seen, .ok other ∉ tail.map Prod.fst :=
          List.forall_mem_cons.mpr ⟨nameAbsent, tailFresh⟩
        obtain ⟨final, seenFinal, succeeds, finalHolds, seenIff⟩ := continued laterFresh holds
        refine ⟨final, seenFinal, ?_, finalHolds, fun other => ?_⟩
        · rw [setMembers_cons_of_known known notSeen, bind_eq_ok_iff]
          exact ⟨after, withinMember_eq_ok_iff.mpr stored, succeeds⟩
        · rw [seenIff]
          grind
      · obtain ⟨final, seenFinal, succeeds, finalHolds, seenIff⟩ := continued tailFresh start
        refine ⟨final, seenFinal, ?_, finalHolds, fun other => ?_⟩
        · have intact := ignored name document List.mem_cons_self known
          rw [setMembers_cons_of_unknown known intact]
          exact succeeds
        · rw [seenIff]
          grind

theorem exists_set_of_mem {once : Bool} {medium : Medium} {seen : List String} {before : α}
    {members : Document.Members} {result : α × List String}
    (succeeds : record.setMembers once medium seen before members = .ok result) {name : String}
    {document : Document} (member : (.ok name, document) ∈ members)
    (known : name ∈ record.fields) :
    ∃ earlier later, record.set name medium document earlier = .ok later := by
  induction members generalizing seen before with
  | nil => simp at member
  | cons head tail inductionHypothesis =>
      obtain ⟨headName, named, remainder⟩ := bind_eq_ok_iff.mp succeeds
      rcases List.mem_cons.mp member with rfl | later
      · cases named
        rw [if_pos known] at remainder
        split at remainder
        · simp at remainder
        · obtain ⟨after, stored, _⟩ := bind_eq_ok_iff.mp remainder
          exact ⟨before, after, withinMember_eq_ok_iff.mp stored⟩
      · split at remainder
        · split at remainder
          · simp at remainder
          · obtain ⟨_, _, tailStored⟩ := bind_eq_ok_iff.mp remainder
            exact inductionHypothesis tailStored later
        · obtain ⟨_, tailStored⟩ := check_bind_eq_ok_iff.mp remainder
          exact inductionHypothesis tailStored later

theorem requireFields_eq_ok_iff {seen : List String} :
    record.requireFields seen = .ok () ↔ ∀ name ∈ record.required, name ∈ seen := by
  unfold requireFields
  cases missing : record.required.find? fun name => name ∉ seen with
  | none => simpa using missing
  | some name =>
      have absent := List.find?_some missing
      have required := List.mem_of_find?_eq_some missing
      simp only [fail_ne_ok, false_iff]
      intro all
      simp [all name required] at absent

/-! ### Objects that spell a value -/

section Spelled

variable {medium : Medium} {document : Document} {entries : List (String × Json)}

/-- Storing a member of the object, from whatever spells it, keeps what holds of the fields that
were stored and the value. -/
def Keeps (record : Record α) (medium : Medium) (entries : List (String × Json))
    (Holds : List String → α → Prop) : Prop :=
  ∀ name part document seen before, name ∈ record.fields →
    (Json.obj entries).get? name = some part → document.Spells part → Holds seen before →
      ∃ after, record.set name medium document before = .ok after ∧ Holds (name :: seen) after

/-- The names are those of the fields that the object has. -/
def AreFieldsOf (record : Record α) (entries : List (String × Json)) (names : List String) : Prop :=
  ∀ name, name ∈ names ↔ name ∈ record.fields ∧ ((Json.obj entries).get? name).isSome

variable {Holds : List String → α → Prop} (keeps : record.Keeps medium entries Holds)
  (spells : document.Spells (.obj entries)) (start : Holds [] record.empty)
include keeps spells start

theorem setMembers_of_spells (once : Bool) :
    ∃ members after stored, document = .obj members none ∧
      record.setMembers once medium [] record.empty members = .ok (after, stored) ∧
      Holds stored after ∧ record.AreFieldsOf entries stored := by
  have spelled := spells
  cases spells with
  | @obj members _ named distinct present _ =>
      have ignored : ∀ name document, (.ok name, document) ∈ members → name ∉ record.fields →
          document.Intact := by
        intro name document member _
        obtain ⟨_, _, part⟩ := spelled.exists_part member
        exact part.intact
      have step : ∀ name document seen before, (.ok name, document) ∈ members →
          name ∈ record.fields → Holds seen before →
            ∃ after, record.set name medium document before = .ok after ∧
              Holds (name :: seen) after := by
        intro name document seen before member known holds
        obtain ⟨part, found, partSpelled⟩ := spelled.exists_part member
        exact keeps name part document seen before known found partSpelled holds
      obtain ⟨after, stored, succeeds, holds, storedIff⟩ :=
        setMembers_of_steps once Holds named distinct ignored step (by simp) start
      refine ⟨members, after, stored, rfl, succeeds, holds, fun name => ?_⟩
      rw [storedIff, present]
      simp

theorem loose_of_spells :
    ∃ value stored, record.loose medium document = .ok value ∧ Holds stored value ∧
      record.AreFieldsOf entries stored := by
  obtain ⟨members, value, stored, rfl, succeeds, holds, areFields⟩ :=
    setMembers_of_spells keeps spells start false
  refine ⟨value, stored, ?_, holds, areFields⟩
  rw [loose, succeeds]
  rfl

theorem strict_of_spells
    (complete : ∀ name ∈ record.required,
      name ∈ record.fields ∧ ((Json.obj entries).get? name).isSome) :
    ∃ value stored, record.strict medium document = .ok value ∧ Holds stored value ∧
      record.AreFieldsOf entries stored := by
  obtain ⟨members, value, stored, rfl, succeeds, holds, areFields⟩ :=
    setMembers_of_spells keeps spells start true
  have required : record.requireFields stored = .ok () :=
    requireFields_eq_ok_iff.mpr fun name member => (areFields name).mpr (complete name member)
  refine ⟨value, stored, ?_, holds, areFields⟩
  rw [strict, ofMembers, succeeds]
  simp [endMembers, required, bind, Except.bind, pure, Except.pure]

end Spelled

/-! ### Open records -/

/-- The members that are not fields of the record. -/
def otherMembers (record : Record α) : Document.Members → List (String × Document)
  | [] => []
  | (.error _, _) :: rest => record.otherMembers rest
  | (.ok name, document) :: rest =>
      if name ∈ record.fields then record.otherMembers rest
      else (name, document) :: record.otherMembers rest

theorem mem_otherMembers {members : Document.Members} {name : String} {document : Document} :
    (name, document) ∈ record.otherMembers members ↔
      (.ok name, document) ∈ members ∧ name ∉ record.fields := by
  induction members with
  | nil => simp [otherMembers]
  | cons head tail inductionHypothesis =>
      obtain ⟨named, value⟩ := head
      cases named with
      | error fault => simp [otherMembers, inductionHypothesis]
      | ok other =>
          rw [otherMembers]
          split
          · simp [inductionHypothesis]
            grind
          · simp [inductionHypothesis]
            grind

theorem nodup_otherMembers {members : Document.Members} (distinct : (members.map Prod.fst).Nodup) :
    ((record.otherMembers members).map Prod.fst).Nodup := by
  induction members with
  | nil => exact List.nodup_nil
  | cons head tail inductionHypothesis =>
      obtain ⟨named, document⟩ := head
      obtain ⟨headAbsent, tailDistinct⟩ := List.nodup_cons.mp distinct
      cases named with
      | error fault => exact inductionHypothesis tailDistinct
      | ok name =>
          rw [otherMembers]
          split
          · exact inductionHypothesis tailDistinct
          · refine List.nodup_cons.mpr ⟨fun later => ?_, inductionHypothesis tailDistinct⟩
            obtain ⟨⟨_, value⟩, among, rfl⟩ := List.mem_map.mp later
            have isMember := (mem_otherMembers.mp among).1
            exact headAbsent (List.mem_map.mpr ⟨_, isMember, rfl⟩)

/-- The members that are not fields can be kept. -/
def OthersRead (record : Record α) (members : Document.Members) : Prop :=
  ∀ member ∈ record.otherMembers members, ∃ value, json member.2 = .ok value

section Kept

variable {medium : Medium} {members : Document.Members}

/-- An open record whose other members can be kept is stored like a strict one. -/
theorem setKnown_eq (read : record.OthersRead members) (seen : List String)
    (others : List (String × Document)) (before : α) :
    record.setKnown medium seen others before members =
      (record.setMembers true medium seen before members).map fun stored =>
        (stored.1, stored.2, (record.otherMembers members).reverse ++ others) := by
  induction members generalizing seen others before with
  | nil => rfl
  | cons head tail inductionHypothesis =>
      obtain ⟨named, document⟩ := head
      cases named with
      | error fault => rfl
      | ok name =>
          rw [OthersRead, otherMembers] at read
          rw [setKnown, setMembers, otherMembers]
          by_cases known : name ∈ record.fields
          · rw [if_pos known] at read
            have continued := inductionHypothesis read
            by_cases repeated : name ∈ seen
            · simp [memberName, known, repeated, fail, bind, Except.bind, Except.map]
            · cases stored : withinMember name document (record.set name medium document before) with
              | error failure =>
                  simp [memberName, known, repeated, stored, bind, Except.bind, Except.map]
              | ok after => simp [memberName, known, repeated, stored, continued, bind, Except.bind]
          · rw [if_neg known] at read
            obtain ⟨⟨value, decoded⟩, tailRead⟩ := List.forall_mem_cons.mp read
            have continued := inductionHypothesis tailRead
            have kept : withinMember name document (json document) = .ok value :=
              withinMember_eq_ok_iff.mpr decoded
            have ignored : withinMember name document (ignore document) = .ok () :=
              withinMember_eq_ok_iff.mpr (ignore_eq_ok_iff.mpr (json_intact decoded))
            simp [memberName, known, kept, ignored, continued, bind, Except.bind]

theorem othersRead_of_setKnown {seen : List String} {others : List (String × Document)} {before : α}
    {result : α × List String × List (String × Document)}
    (succeeds : record.setKnown medium seen others before members = .ok result) :
    record.OthersRead members := by
  induction members generalizing seen others before with
  | nil => simp [OthersRead, otherMembers]
  | cons head tail inductionHypothesis =>
      obtain ⟨named, document⟩ := head
      obtain ⟨name, isName, remainder⟩ := bind_eq_ok_iff.mp succeeds
      cases named
      case error => cases isName
      cases isName
      rw [OthersRead, otherMembers]
      split at remainder
      · next known =>
          rw [if_pos known]
          split at remainder
          · simp at remainder
          · obtain ⟨_, _, tailStored⟩ := bind_eq_ok_iff.mp remainder
            exact inductionHypothesis tailStored
      · next unknown =>
          rw [if_neg unknown]
          obtain ⟨value, decoded, tailStored⟩ := bind_eq_ok_iff.mp remainder
          exact List.forall_mem_cons.mpr
            ⟨⟨value, withinMember_eq_ok_iff.mp decoded⟩, inductionHypothesis tailStored⟩

theorem openRecord_eq (read : record.OthersRead members) (ending : Option SyntaxFault) :
    record.openRecord medium (.obj members ending) =
      (record.strict medium (.obj members ending)).map fun value =>
        (value, record.otherMembers members) := by
  rw [openRecord, strict, ofMembers, setKnown_eq read]
  cases record.setMembers true medium [] record.empty members with
  | error failure => rfl
  | ok stored =>
      cases endMembers ending with
      | error failure => simp [bind, Except.bind, Except.map]
      | ok _ =>
          cases required : record.requireFields stored.2 with
          | error failure => simp [required, bind, Except.bind, Except.map]
          | ok _ => simp [required, bind, Except.bind, Except.map, pure, Except.pure]

theorem openRecord_eq_ok_iff {ending : Option SyntaxFault} {result : α}
    {others : List (String × Document)} :
    record.openRecord medium (.obj members ending) = .ok (result, others) ↔
      record.strict medium (.obj members ending) = .ok result ∧ record.OthersRead members ∧
        record.otherMembers members = others := by
  constructor
  · intro succeeds
    obtain ⟨_, stored, _⟩ := bind_eq_ok_iff.mp succeeds
    have read := othersRead_of_setKnown stored
    rw [openRecord_eq read] at succeeds
    obtain ⟨_, opened, isResult⟩ := map_eq_ok_iff.mp succeeds
    cases isResult
    exact ⟨opened, read, rfl⟩
  · rintro ⟨opened, read, rfl⟩
    rw [openRecord_eq read, opened]
    rfl

end Kept

/-- Nothing but an object is read as an open record. -/
theorem exists_members_of_openRecord {medium : Medium} {document : Document}
    {result : α × List (String × Document)}
    (succeeds : record.openRecord medium document = .ok result) :
    ∃ members ending, document = .obj members ending := by
  unfold openRecord at succeeds
  split at succeeds
  · exact ⟨_, _, rfl⟩
  · simp at succeeds
  · simp at succeeds

theorem openRecord_of_spells {medium : Medium} {members : Document.Members}
    {entries : List (String × Json)} (spells : (Document.obj members none).Spells (.obj entries)) :
    record.openRecord medium (.obj members none) =
      (record.strict medium (.obj members none)).map fun value =>
        (value, record.otherMembers members) := by
  refine openRecord_eq (fun ⟨name, document⟩ member => ?_) none
  obtain ⟨_, _, part⟩ := spells.exists_part (mem_otherMembers.mp member).1
  obtain ⟨value, decoded, _⟩ := part.readsBack
  exact ⟨value, decoded⟩

end Record

end AvailabilityGate.Decode
