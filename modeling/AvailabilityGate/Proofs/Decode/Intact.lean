import AvailabilityGate.Decode.Record
import AvailabilityGate.Decode.Variant
import AvailabilityGate.Proofs.Fallible

/-!
Owns what a decoder that succeeds has seen of its document: all of it, and no place where the text
stops being JSON. A decoder that is thorough in this sense may leave members out of the value that
it gives, but none unread.

Does not own which values are given.

Main statement: a text that a thorough decoder accepts is JSON.
-/

namespace AvailabilityGate

open Fallible

namespace Document

/-- Who passes over the document meets no fault. -/
def Intact (document : Document) : Prop :=
  Decode.passOver document = none

/-- The text is one JSON value, with nothing but blanks around it. -/
def IsJson (text : String) : Prop :=
  (read text).document.Intact ∧ (read text).trailing = false

theorem passOverItems_eq_none_iff {ending : Option SyntaxFault} {documents : List Document} :
    Decode.passOverItems ending documents = none ↔
      ending = none ∧ ∀ document ∈ documents, document.Intact := by
  induction documents with
  | nil => simp [Decode.passOverItems]
  | cons head tail inductionHypothesis =>
      rw [Decode.passOverItems, Option.orElse_eq_or, Option.or_eq_none_iff,
        inductionHypothesis, List.forall_mem_cons, Intact, and_left_comm]

theorem passOverMembers_eq_none_iff {ending : Option SyntaxFault} {members : Members} :
    Decode.passOverMembers ending members = none ↔
      ending = none ∧ ∀ member ∈ members, member.2.Intact := by
  induction members with
  | nil => simp [Decode.passOverMembers]
  | cons head tail inductionHypothesis =>
      rw [Decode.passOverMembers, Option.orElse_eq_or, Option.or_eq_none_iff,
        inductionHypothesis, List.forall_mem_cons, Intact, and_left_comm]

theorem intact_arr_iff {documents : List Document} {ending : Option SyntaxFault} :
    (arr documents ending).Intact ↔ ending = none ∧ ∀ document ∈ documents, document.Intact := by
  rw [Intact, Decode.passOver, passOverItems_eq_none_iff, Option.map_eq_none_iff]

theorem intact_obj_iff {members : Members} {ending : Option SyntaxFault} :
    (obj members ending).Intact ↔ ending = none ∧ ∀ member ∈ members, member.2.Intact := by
  rw [Intact, Decode.passOver, passOverMembers_eq_none_iff, Option.map_eq_none_iff]

/-! ### Texts that are not JSON -/

theorem not_isDigit_of_isUpper {c : Char} (capital : c.isUpper = true) : c.isDigit = false := by
  have fromA : 'A'.toNat ≤ c.toNat := (of_decide_eq_true capital).1
  rw [← Bool.not_eq_true, Char.isDigit_iff_toNat]
  intro digit
  exact absurd (Nat.le_trans fromA digit.2) (by decide)

theorem scanScalar_of_isUpper {c : Char} (capital : c.isUpper = true) (rest : List Char) :
    scanScalar c rest = (.broken .expectedValue, []) := by
  unfold scanScalar
  split
  case h_5 =>
    rw [not_isDigit_of_isUpper capital]
    rfl
  all_goals simp at capital

theorem tokens_of_isUpper {c : Char} (capital : c.isUpper = true) (rest : List Char) :
    tokens (c :: rest) = [.scalar (.broken .expectedValue)] := by
  have other : ∀ {d : Char}, d.isUpper = false → c ≠ d := by
    rintro d small rfl
    simp [capital] at small
  rw [tokens, placedTokens]
  simp [other, scanScalar_of_isUpper capital, placedTokens]

theorem not_isJson_of_broken {text : String} {fault : SyntaxFault}
    (stops : (read text).document = .broken fault) : ¬ IsJson text := by
  rintro ⟨intact, _⟩
  rw [stops] at intact
  cases fault <;> cases intact

/-- No value starts with a capital letter. -/
theorem not_isJson_of_isUpper {text : String} {c : Char} {rest : List Char}
    (starts : text.toList = c :: rest) (capital : c.isUpper = true) : ¬ IsJson text := by
  have stops : (read text).document = .broken .expectedValue := by
    rw [read, starts, tokens_of_isUpper capital]
    rfl
  exact not_isJson_of_broken stops

theorem not_isJson_empty : ¬ IsJson "" := by
  have stops : (read "").document = .broken .endOfValue := by
    simp [read, tokens, placedTokens, readTokens, readEnd, stopAtValue, closeAll]
  exact not_isJson_of_broken stops

end Document

namespace Decode

variable {α β : Type}

/-! ### Failures -/

@[simp]
theorem fail_ne_ok (cause : DecodeCause) (value : α) : fail cause ≠ .ok value := by
  simp [fail]

@[simp]
theorem mismatch_ne_ok (expected : String) (document : Document) (value : α) :
    mismatch expected document ≠ .ok value := by
  unfold mismatch
  split <;> simp

theorem within_eq_ok_iff {step : PathStep} {result : Except DecodeFailure α} {value : α} :
    within step result = .ok value ↔ result = .ok value := by
  cases result <;> simp [within]

theorem withinMember_eq_ok_iff {name : String} {document : Document}
    {result : Except DecodeFailure α} {value : α} :
    withinMember name document result = .ok value ↔ result = .ok value := by
  unfold withinMember
  split
  · rfl
  · exact within_eq_ok_iff

/-- A failure keeps its cause where it is placed. -/
theorem exists_withinMember_error (name : String) (document : Document) (failure : DecodeFailure) :
    ∃ placed, withinMember name document (.error failure : Except DecodeFailure α) =
      .error placed ∧ placed.cause = failure.cause := by
  unfold withinMember
  split
  · exact ⟨failure, rfl, rfl⟩
  · exact ⟨failure.within (.member name), rfl, rfl⟩

theorem endItems_eq_ok_iff {ending : Option SyntaxFault} :
    endItems ending = .ok () ↔ ending = none := by
  cases ending <;> simp [endItems, fail]

theorem endMembers_eq_ok_iff {ending : Option SyntaxFault} :
    endMembers ending = .ok () ↔ ending = none := by
  cases ending <;> simp [endMembers, within, fail]

theorem ignore_eq_ok_iff {document : Document} : ignore document = .ok () ↔ document.Intact := by
  unfold ignore Document.Intact
  cases passOver document <;> simp [fail]

/-! ### Values -/

/-- What the decoder accepts is intact. -/
def Thorough (decode : Decoder α) : Prop :=
  ∀ ⦃medium document value⦄, decode medium document = .ok value → document.Intact

/-- Whatever is made of a value that was decoded, its document was intact. -/
theorem Thorough.of_bind {decode : Decoder α} (thorough : Thorough decode) {medium : Medium}
    {document : Document} {next : α → Except DecodeFailure β} {result : β}
    (succeeds : decode medium document >>= next = .ok result) : document.Intact := by
  obtain ⟨value, decoded, _⟩ := bind_eq_ok_iff.mp succeeds
  exact thorough decoded

theorem thorough_bool : Thorough bool := by
  intro medium document value succeeds
  unfold bool at succeeds
  split at succeeds
  · rfl
  · simp at succeeds

theorem thorough_text : Thorough text := by
  intro medium document value succeeds
  unfold text at succeeds
  split at succeeds
  · rfl
  · simp at succeeds

theorem thorough_int64 : Thorough int64 := by
  intro medium document value succeeds
  unfold int64 at succeeds
  split at succeeds
  · rfl
  · simp at succeeds

theorem thorough_time : Thorough time := by
  intro medium document value succeeds
  unfold time at succeeds
  split at succeeds
  · rfl
  · simp at succeeds

theorem thorough_natural (limit : Nat) (expected : String) : Thorough (natural limit expected) := by
  intro medium document value succeeds
  unfold natural at succeeds
  split at succeeds
  · rfl
  · simp at succeeds

theorem Thorough.optional {decode : Decoder α} (thorough : Thorough decode) :
    Thorough (optional decode) := by
  intro medium document value succeeds
  unfold Decode.optional at succeeds
  split at succeeds
  · rfl
  · exact thorough.of_bind succeeds

theorem Thorough.map {decode : Decoder α} (thorough : Thorough decode) (convert : α → β) :
    Thorough fun medium document => convert <$> decode medium document := by
  intro medium document value succeeds
  obtain ⟨_, decoded, _⟩ := map_eq_ok_iff.mp succeeds
  exact thorough decoded

theorem Thorough.seen {decode : Decoder α} (thorough : Thorough decode) : Thorough (seen decode) :=
  fun _ _ _ succeeds => thorough.of_bind succeeds

theorem items_intact {decode : Document → Except DecodeFailure α}
    (thorough : ∀ ⦃document value⦄, decode document = .ok value → document.Intact)
    {ending : Option SyntaxFault} {index : Nat} {documents : List Document} {values : List α}
    (succeeds : items decode ending index documents = .ok values) :
    ending = none ∧ ∀ document ∈ documents, document.Intact := by
  induction documents generalizing index values with
  | nil =>
      obtain ⟨ended, _⟩ := check_bind_eq_ok_iff.mp succeeds
      exact ⟨endItems_eq_ok_iff.mp ended, by simp⟩
  | cons head tail inductionHypothesis =>
      obtain ⟨value, headDecoded, remainder⟩ := bind_eq_ok_iff.mp succeeds
      obtain ⟨rest, tailDecoded, _⟩ := bind_eq_ok_iff.mp remainder
      obtain ⟨ended, tailIntact⟩ := inductionHypothesis tailDecoded
      exact ⟨ended,
        List.forall_mem_cons.mpr ⟨thorough (within_eq_ok_iff.mp headDecoded), tailIntact⟩⟩

theorem Thorough.list {decode : Decoder α} (thorough : Thorough decode) :
    Thorough (list decode) := by
  intro medium document value succeeds
  unfold Decode.list at succeeds
  split at succeeds
  · exact Document.intact_arr_iff.mpr (items_intact (@thorough _) succeeds)
  · simp at succeeds
  · simp at succeeds

theorem entries_intact {decode : Document → Except DecodeFailure α}
    (thorough : ∀ ⦃document value⦄, decode document = .ok value → document.Intact)
    {before after : Table α} {members : Document.Members}
    (succeeds : entries decode before members = .ok after) :
    ∀ member ∈ members, member.2.Intact := by
  induction members generalizing before with
  | nil => simp
  | cons head tail inductionHypothesis =>
      obtain ⟨name, _, remainder⟩ := bind_eq_ok_iff.mp succeeds
      obtain ⟨value, headDecoded, tailDecoded⟩ := bind_eq_ok_iff.mp remainder
      exact List.forall_mem_cons.mpr
        ⟨thorough (withinMember_eq_ok_iff.mp headDecoded), inductionHypothesis tailDecoded⟩

theorem Thorough.table {decode : Decoder α} (thorough : Thorough decode) :
    Thorough (table decode) := by
  intro medium document value succeeds
  unfold Decode.table at succeeds
  split at succeeds
  · obtain ⟨entries, entriesDecoded, remainder⟩ := bind_eq_ok_iff.mp succeeds
    obtain ⟨ended, _⟩ := check_bind_eq_ok_iff.mp remainder
    exact Document.intact_obj_iff.mpr
      ⟨endMembers_eq_ok_iff.mp ended, entries_intact (@thorough _) entriesDecoded⟩
  · simp at succeeds
  · simp at succeeds

/-! ### Variants -/

theorem nothing_intact {document : Document} (succeeds : nothing document = .ok ()) :
    document.Intact := by
  unfold nothing at succeeds
  split at succeeds
  · rfl
  · simp at succeeds

theorem soleMember_intact {known : List (String × α)} {members : Document.Members}
    {ending : Option SyntaxFault} {value : α}
    (succeeds : soleMember known members ending = .ok value) :
    (Document.obj members ending).Intact := by
  unfold soleMember at succeeds
  split at succeeds
  · simp at succeeds
  · simp at succeeds
  · obtain ⟨_, _, remainder⟩ := bind_eq_ok_iff.mp succeeds
    obtain ⟨isNull, remainder⟩ := check_bind_eq_ok_iff.mp remainder
    split at remainder
    · have headIntact := nothing_intact (withinMember_eq_ok_iff.mp isNull)
      exact Document.intact_obj_iff.mpr ⟨rfl, by simpa using headIntact⟩
    · simp at remainder
    · simp at remainder

theorem thorough_variant (known : List (String × α)) : Thorough (variant known) := by
  intro medium document value succeeds
  unfold variant at succeeds
  split at succeeds
  case h_1 => rfl
  case h_2 =>
    obtain ⟨_, _, remainder⟩ := bind_eq_ok_iff.mp succeeds
    obtain ⟨isNull, _⟩ := check_bind_eq_ok_iff.mp remainder
    have memberIntact := nothing_intact (within_eq_ok_iff.mp isNull)
    exact Document.intact_obj_iff.mpr ⟨rfl, by simpa using memberIntact⟩
  case h_4 => simp at succeeds
  case h_5 => exact soleMember_intact succeeds
  all_goals simp at succeeds

/-! ### Free-form JSON -/

mutual

theorem json_intact {document : Document} {value : Json} (succeeds : json document = .ok value) :
    document.Intact := by
  match document with
  | .null | .bool _ | .int _ | .float _ | .str _ => rfl
  | .arr documents ending =>
      unfold json at succeeds
      obtain ⟨values, decoded, _⟩ := bind_eq_ok_iff.mp succeeds
      exact Document.intact_arr_iff.mpr (jsonItems_intact decoded)
  | .obj members ending =>
      unfold json at succeeds
      obtain ⟨values, decoded, _⟩ := bind_eq_ok_iff.mp succeeds
      exact Document.intact_obj_iff.mpr (jsonMembers_intact decoded)
  | .refused _ _ | .broken _ => simp [json] at succeeds

theorem jsonItems_intact {ending : Option SyntaxFault} {index : Nat} {documents : List Document}
    {values : List Json} (succeeds : jsonItems ending index documents = .ok values) :
    ending = none ∧ ∀ document ∈ documents, document.Intact := by
  match documents with
  | [] =>
      unfold jsonItems at succeeds
      obtain ⟨ended, _⟩ := check_bind_eq_ok_iff.mp succeeds
      exact ⟨endItems_eq_ok_iff.mp ended, by simp⟩
  | head :: tail =>
      unfold jsonItems at succeeds
      obtain ⟨value, headDecoded, remainder⟩ := bind_eq_ok_iff.mp succeeds
      obtain ⟨rest, tailDecoded, _⟩ := bind_eq_ok_iff.mp remainder
      obtain ⟨ended, tailIntact⟩ := jsonItems_intact tailDecoded
      exact ⟨ended,
        List.forall_mem_cons.mpr ⟨json_intact (within_eq_ok_iff.mp headDecoded), tailIntact⟩⟩

theorem jsonMembers_intact {ending : Option SyntaxFault} {members : Document.Members}
    {values : List (String × Json)} (succeeds : jsonMembers ending members = .ok values) :
    ending = none ∧ ∀ member ∈ members, member.2.Intact := by
  match members with
  | [] =>
      unfold jsonMembers at succeeds
      obtain ⟨ended, _⟩ := check_bind_eq_ok_iff.mp succeeds
      exact ⟨endMembers_eq_ok_iff.mp ended, by simp⟩
  | (_, document) :: tail =>
      unfold jsonMembers at succeeds
      obtain ⟨name, _, remainder⟩ := bind_eq_ok_iff.mp succeeds
      obtain ⟨value, headDecoded, remainder⟩ := bind_eq_ok_iff.mp remainder
      obtain ⟨rest, tailDecoded, _⟩ := bind_eq_ok_iff.mp remainder
      obtain ⟨ended, tailIntact⟩ := jsonMembers_intact tailDecoded
      have headIntact := json_intact (withinMember_eq_ok_iff.mp headDecoded)
      exact ⟨ended, List.forall_mem_cons.mpr ⟨headIntact, tailIntact⟩⟩

end

theorem thorough_json : Thorough fun _ document => json document :=
  fun _ _ _ succeeds => json_intact succeeds

/-! ### Records -/

namespace Record

variable {record : Record α}

/-- Every field of the record is stored from an intact document. -/
def Thorough (record : Record α) : Prop :=
  ∀ ⦃name⦄, name ∈ record.fields → ∀ ⦃medium document before after⦄,
    record.set name medium document before = .ok after → document.Intact

theorem thorough_checked {title : String} {looks : List (String × Decoder Unit)}
    {required reached : List String} (thorough : ∀ look ∈ looks, Decode.Thorough look.2) :
    (checked title looks required reached).Thorough := by
  intro name member medium document before after succeeds
  simp only [checked] at succeeds
  split at succeeds
  · next look found =>
      obtain ⟨_, _, rfl, _⟩ := List.lookup_eq_some_iff.mp found
      exact thorough (name, look) (by simp) succeeds
  · next missing =>
      obtain ⟨look, among, rfl⟩ := List.mem_map.mp member
      exact absurd (List.lookup_eq_none_iff.mp missing look among) (by simp)

theorem endFields_eq_ok_iff {medium : Medium} {count : Nat} {rest : List Document}
    {ending : Option SyntaxFault} :
    endFields medium count rest ending = .ok () ↔ rest = [] ∧ ending = none := by
  unfold endFields
  split <;> simp_all

variable (thorough : record.Thorough)
include thorough

theorem setMembers_intact {once : Bool} {medium : Medium} {seen : List String} {before : α}
    {members : Document.Members} {result : α × List String}
    (succeeds : record.setMembers once medium seen before members = .ok result) :
    ∀ member ∈ members, member.2.Intact := by
  induction members generalizing seen before with
  | nil => simp
  | cons head tail inductionHypothesis =>
      rw [List.forall_mem_cons]
      obtain ⟨name, _, remainder⟩ := bind_eq_ok_iff.mp succeeds
      split at remainder
      · next known =>
          split at remainder
          · simp at remainder
          · obtain ⟨after, stored, tailStored⟩ := bind_eq_ok_iff.mp remainder
            exact ⟨thorough known (withinMember_eq_ok_iff.mp stored),
              inductionHypothesis tailStored⟩
      · obtain ⟨ignored, tailStored⟩ := check_bind_eq_ok_iff.mp remainder
        exact ⟨ignore_eq_ok_iff.mp (withinMember_eq_ok_iff.mp ignored),
          inductionHypothesis tailStored⟩

theorem setItems_intact {medium : Medium} {count : Nat} {ending : Option SyntaxFault} {index : Nat}
    {names : List String} (known : ∀ name ∈ names, name ∈ record.fields) {before after : α}
    {documents : List Document}
    (succeeds : record.setItems medium count ending index names before documents = .ok after) :
    ending = none ∧ ∀ document ∈ documents, document.Intact := by
  induction names generalizing index before documents with
  | nil =>
      obtain ⟨ended, _⟩ := check_bind_eq_ok_iff.mp succeeds
      obtain ⟨rfl, rfl⟩ := endFields_eq_ok_iff.mp ended
      simp
  | cons name names inductionHypothesis =>
      obtain ⟨nameKnown, namesKnown⟩ := List.forall_mem_cons.mp known
      cases documents with
      | nil =>
          -- The array ends before its fields do: none of them is stored from a document.
          obtain ⟨ended, _⟩ := check_bind_eq_ok_iff.mp succeeds
          exact ⟨endItems_eq_ok_iff.mp ended, by simp⟩
      | cons head tail =>
          obtain ⟨after, stored, tailStored⟩ := bind_eq_ok_iff.mp succeeds
          obtain ⟨ended, tailIntact⟩ := inductionHypothesis namesKnown tailStored
          have headIntact := thorough nameKnown (within_eq_ok_iff.mp stored)
          exact ⟨ended, List.forall_mem_cons.mpr ⟨headIntact, tailIntact⟩⟩

theorem ofMembers_intact {medium : Medium} {members : Document.Members}
    {ending : Option SyntaxFault} {value : α}
    (succeeds : record.ofMembers medium members ending = .ok value) :
    (Document.obj members ending).Intact := by
  obtain ⟨_, stored, remainder⟩ := bind_eq_ok_iff.mp succeeds
  obtain ⟨ended, _⟩ := check_bind_eq_ok_iff.mp remainder
  exact Document.intact_obj_iff.mpr
    ⟨endMembers_eq_ok_iff.mp ended, setMembers_intact thorough stored⟩

theorem thorough_strict : Decode.Thorough record.strict := by
  intro medium document value succeeds
  unfold strict at succeeds
  split at succeeds
  · exact ofMembers_intact thorough succeeds
  · exact Document.intact_arr_iff.mpr (setItems_intact thorough (fun _ member => member) succeeds)
  all_goals simp at succeeds

theorem thorough_loose : Decode.Thorough record.loose := by
  intro medium document value succeeds
  unfold loose at succeeds
  split at succeeds
  · obtain ⟨_, stored, remainder⟩ := bind_eq_ok_iff.mp succeeds
    obtain ⟨ended, _⟩ := check_bind_eq_ok_iff.mp remainder
    exact Document.intact_obj_iff.mpr
      ⟨endMembers_eq_ok_iff.mp ended, setMembers_intact thorough stored⟩
  · simp at succeeds
  · simp at succeeds

theorem setKnown_intact {medium : Medium} {seen : List String} {others : List (String × Document)}
    {before : α} {members : Document.Members}
    {result : α × List String × List (String × Document)}
    (succeeds : record.setKnown medium seen others before members = .ok result) :
    ∀ member ∈ members, member.2.Intact := by
  induction members generalizing seen others before with
  | nil => simp
  | cons head tail inductionHypothesis =>
      rw [List.forall_mem_cons]
      obtain ⟨name, _, remainder⟩ := bind_eq_ok_iff.mp succeeds
      split at remainder
      · next known =>
          split at remainder
          · simp at remainder
          · obtain ⟨after, stored, tailStored⟩ := bind_eq_ok_iff.mp remainder
            exact ⟨thorough known (withinMember_eq_ok_iff.mp stored),
              inductionHypothesis tailStored⟩
      · obtain ⟨_, kept, tailStored⟩ := bind_eq_ok_iff.mp remainder
        exact ⟨json_intact (withinMember_eq_ok_iff.mp kept), inductionHypothesis tailStored⟩

theorem thorough_openRecord : Decode.Thorough record.openRecord := by
  intro medium document value succeeds
  unfold openRecord at succeeds
  split at succeeds
  · obtain ⟨_, stored, remainder⟩ := bind_eq_ok_iff.mp succeeds
    obtain ⟨ended, _⟩ := check_bind_eq_ok_iff.mp remainder
    exact Document.intact_obj_iff.mpr
      ⟨endMembers_eq_ok_iff.mp ended, setKnown_intact thorough stored⟩
  · simp at succeeds
  · simp at succeeds

end Record

/-- A text that a thorough decoder accepts is JSON. -/
theorem Thorough.isJson {decode : Decoder α} (thorough : Thorough decode) {content : String}
    {value : α} (succeeds : ofText decode content = .ok value) : Document.IsJson content := by
  obtain ⟨_, decoded, remainder⟩ := bind_eq_ok_iff.mp succeeds
  split at remainder
  · simp at remainder
  · next nothingTrails => exact ⟨thorough decoded, Bool.not_eq_true _ ▸ nothingTrails⟩

end Decode

end AvailabilityGate
