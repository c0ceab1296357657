import AvailabilityGate.Policy.Basic
import AvailabilityGate.Proofs.Decode.Recovery
import AvailabilityGate.Proofs.Document.Compact

/-!
Owns that what is written of a policy is read back as it was. For each record the fields are given
as they stand in its JSON, and `upTo` is the record as far as some of them have been read; reading a
field goes from one such record to the next, whatever the order.

An absent part and an empty one are written differently: that keeps them apart.

Main statement: specs round-trip, so that no two of them are written alike.
-/

namespace AvailabilityGate

open Decode Json

namespace Bound

theorem encode_ne_null (bound : Bound) : bound.encode ≠ .null := by
  cases bound <;> simp [encode]

theorem recovers_decode : Recovers decode encode := by
  intro medium document bound spells
  cases bound with
  | count value =>
      rw [encode] at spells
      cases spells
      rw [decode, if_pos (fitsInt32_toInt value), Int32.ofInt_toInt]
  | text value =>
      rw [encode] at spells
      cases spells
      rfl

theorem plain_encode {depth : Nat} (bound : Bound) : bound.encode.Plain depth := by
  cases bound with
  | count value => exact plain_int32 value
  | text value => exact .str value

end Bound

/-! ### Selectors -/

namespace Requirement

/-- The requirement as far as the named fields say it. -/
def upTo (names : List String) (requirement : Requirement) : Requirement where
  key := if "key" ∈ names then requirement.key else ""
  operator := if "operator" ∈ names then requirement.operator else ""
  values := if "values" ∈ names then requirement.values else none

theorem get?_encode (requirement : Requirement) (name : String) :
    requirement.encode.get? name =
      if name = "key" then some (.str requirement.key)
      else if name = "operator" then some (.str requirement.operator)
      else if name = "values" then requirement.values.map fun values => .arr (values.map .str)
      else none := by
  rw [encode, Json.get?_obj]
  simp only [List.reverse_append, List.lookup_append, Json.lookup_optional, List.reverse_cons,
    List.reverse_nil, lookup_cons_eq_ite, List.lookup_nil]
  grind

theorem written : record.Written encode upTo where
  object _ := ⟨_, rfl⟩
  nothing _ := rfl
  set := by
    intro requirement medium name part document names known found spelled
    have readText {text : String} (written : some (Json.str text) = some part) :
        Decode.optional Decode.text medium document = .ok (some text) :=
      recovers_text.optional (by simp) written spelled
    have readTexts {texts? : Option (List String)}
        (written : texts?.map (fun texts => Json.arr (texts.map .str)) = some part) :
        Decode.optional (Decode.list Decode.text) medium document = .ok texts? :=
      recovers_text.list.optional (by simp) written spelled
    rw [get?_encode] at found
    simp only [record, List.mem_cons, List.not_mem_nil, or_false] at known
    rcases known with rfl | rfl | rfl
    · simp [record, upTo, readText found, bind, Except.bind, pure, Except.pure]
    · simp [record, upTo, readText found, bind, Except.bind, pure, Except.pure]
    · simp [record, upTo, readTexts found, bind, Except.bind, pure, Except.pure]
  all := by
    intro requirement names areFields
    simp [upTo, areFields, get?_encode, record, ite_isSome]

theorem plain_encode {depth : Nat} (requirement : Requirement) :
    requirement.encode.Plain (depth + 2) :=
  have texts : PlainMembers (depth + 1) (["key"] ++ ["operator"]) _ :=
    (PlainMembers.single (.str requirement.key)).append (.single (.str requirement.operator))
  (texts.append (.optional (plain_arr_map .str) requirement.values)).obj (by decide)

end Requirement

namespace LabelSelector

/-- The selector as far as the named fields say it. -/
def upTo (names : List String) (selector : LabelSelector) : LabelSelector where
  matchLabels := if "matchLabels" ∈ names then selector.matchLabels else none
  matchExpressions := if "matchExpressions" ∈ names then selector.matchExpressions else none

theorem get?_encode (selector : LabelSelector) (name : String) :
    selector.encode.get? name =
      if name = "matchLabels" then selector.matchLabels.map (Json.ofTable .str)
      else if name = "matchExpressions" then
        selector.matchExpressions.map fun requirements => .arr (requirements.map Requirement.encode)
      else none := by
  rw [encode, Json.get?_obj]
  simp only [List.reverse_append, List.lookup_append, Json.lookup_optional]
  grind

theorem written : record.Written encode upTo where
  object _ := ⟨_, rfl⟩
  nothing _ := rfl
  set := by
    intro selector medium name part document names known found spelled
    rw [get?_encode] at found
    simp only [record, List.mem_cons, List.not_mem_nil, or_false] at known
    rcases known with rfl | rfl
    · have read : Decode.optional (Decode.table Decode.text) medium document =
          .ok selector.matchLabels :=
        recovers_text.table.optional (by simp [Json.ofTable]) found spelled
      simp [record, upTo, read, bind, Except.bind, pure, Except.pure]
    · have read : Decode.optional (Decode.list Requirement.record.loose) medium document =
          .ok selector.matchExpressions :=
        Requirement.written.recovers_loose.list.optional (by simp) found spelled
      simp [record, upTo, read, bind, Except.bind, pure, Except.pure]
  all := by
    intro selector names areFields
    simp [upTo, areFields, get?_encode, record, ite_isSome]

theorem recovers_decode : Recovers decode encode :=
  written.recovers_loose

theorem plain_encode {depth : Nat} (selector : LabelSelector) :
    selector.encode.Plain (depth + 4) :=
  have expressions := PlainMembers.optional (plain_arr_map Requirement.plain_encode)
    selector.matchExpressions
  (expressions.append (.optional (plain_ofTable .str) selector.matchLabels)).obj (by decide)

end LabelSelector

/-! ### Rules -/

namespace ReplicasRule

/-- The rule as far as the named fields say it. -/
def upTo (names : List String) (rule : ReplicasRule) : ReplicasRule where
  minimum := if "minimum" ∈ names then rule.minimum else 0

theorem get?_encode (rule : ReplicasRule) (name : String) :
    rule.encode.get? name = if name = "minimum" then some (.int rule.minimum.toInt) else none := by
  rw [encode, Json.get?_obj]
  exact lookup_cons_eq_ite _ _ _

theorem written : record.Written encode upTo where
  object _ := ⟨_, rfl⟩
  nothing _ := rfl
  set := by
    intro rule medium name part document names known found spelled
    rw [get?_encode] at found
    simp only [record, List.mem_cons, List.not_mem_nil, or_false] at known
    subst known
    cases found
    have read : Decode.int32 medium document = .ok rule.minimum := recovers_int32 spelled
    simp [record, upTo, read, bind, Except.bind, pure, Except.pure]
  all := by
    intro rule names areFields
    simp [upTo, areFields, get?_encode, record]

theorem recovers_strict : Recovers record.strict encode :=
  written.recovers_strict fun rule => by simp [record, get?_encode]

theorem plain_encode {depth : Nat} (rule : ReplicasRule) :
    rule.encode.Plain (depth + 1) :=
  (PlainMembers.single (plain_int32 rule.minimum)).obj (by decide)

end ReplicasRule

namespace RollingUpdateRule

/-- The rule as far as the named fields say it. -/
def upTo (names : List String) (rule : RollingUpdateRule) : RollingUpdateRule where
  minSurge := if "minSurge" ∈ names then rule.minSurge else none
  maxSurge := if "maxSurge" ∈ names then rule.maxSurge else none
  maxUnavailable := if "maxUnavailable" ∈ names then rule.maxUnavailable else none

theorem get?_encode (rule : RollingUpdateRule) (name : String) :
    rule.encode.get? name =
      if name = "minSurge" then rule.minSurge.map Bound.encode
      else if name = "maxSurge" then rule.maxSurge.map Bound.encode
      else if name = "maxUnavailable" then rule.maxUnavailable.map Bound.encode
      else none := by
  rw [encode, Json.get?_obj]
  simp only [List.reverse_append, List.lookup_append, Json.lookup_optional]
  grind

theorem written : record.Written encode upTo where
  object _ := ⟨_, rfl⟩
  nothing _ := rfl
  set := by
    intro rule medium name part document names known found spelled
    have read {value? : Option Bound} (written : value?.map Bound.encode = some part) :
        Decode.optional Bound.decode medium document = .ok value? :=
      Bound.recovers_decode.optional Bound.encode_ne_null written spelled
    rw [get?_encode] at found
    simp only [record, List.mem_cons, List.not_mem_nil, or_false] at known
    rcases known with rfl | rfl | rfl
    · simp [record, upTo, read found, bind, Except.bind, pure, Except.pure]
    · simp [record, upTo, read found, bind, Except.bind, pure, Except.pure]
    · simp [record, upTo, read found, bind, Except.bind, pure, Except.pure]
  all := by
    intro rule names areFields
    simp [upTo, areFields, get?_encode, record, ite_isSome]

theorem recovers_strict : Recovers record.strict encode :=
  written.recovers_strict fun rule => by simp [record]

theorem plain_encode {depth : Nat} (rule : RollingUpdateRule) :
    rule.encode.Plain (depth + 1) :=
  have bound {name : String} (value? : Option Bound) :
      PlainMembers depth [name] (Json.optional name Bound.encode value?) :=
    .optional Bound.plain_encode value?
  (((bound rule.maxSurge).append (bound rule.maxUnavailable)).append (bound rule.minSurge)).obj
    (by decide)

end RollingUpdateRule

namespace StrategyRule

/-- The rule as far as the named fields say it. -/
def upTo (names : List String) (rule : StrategyRule) : StrategyRule where
  type := if "type" ∈ names then rule.type else ""
  rollingUpdate := if "rollingUpdate" ∈ names then rule.rollingUpdate else none

theorem get?_encode (rule : StrategyRule) (name : String) :
    rule.encode.get? name =
      if name = "type" then some (.str rule.type)
      else if name = "rollingUpdate" then rule.rollingUpdate.map RollingUpdateRule.encode
      else none := by
  rw [encode, Json.get?_obj]
  simp only [List.reverse_append, List.lookup_append, Json.lookup_optional, List.reverse_cons,
    List.reverse_nil, List.nil_append, lookup_cons_eq_ite, List.lookup_nil]
  grind

theorem written : record.Written encode upTo where
  object _ := ⟨_, rfl⟩
  nothing _ := rfl
  set := by
    intro rule medium name part document names known found spelled
    rw [get?_encode] at found
    simp only [record, List.mem_cons, List.not_mem_nil, or_false] at known
    rcases known with rfl | rfl
    · cases found
      have read : Decode.text medium document = .ok rule.type := recovers_text spelled
      simp [record, upTo, read, bind, Except.bind, pure, Except.pure]
    · have read : Decode.optional RollingUpdateRule.record.strict medium document =
          .ok rule.rollingUpdate :=
        RollingUpdateRule.recovers_strict.optional (by simp [RollingUpdateRule.encode]) found
          spelled
      simp [record, upTo, read, bind, Except.bind, pure, Except.pure]
  all := by
    intro rule names areFields
    simp [upTo, areFields, get?_encode, record, ite_isSome]

theorem recovers_strict : Recovers record.strict encode :=
  written.recovers_strict fun rule => by simp [record, get?_encode]

theorem plain_encode {depth : Nat} (rule : StrategyRule) :
    rule.encode.Plain (depth + 2) :=
  have rollingUpdate := PlainMembers.optional RollingUpdateRule.plain_encode rule.rollingUpdate
  (rollingUpdate.append (.single (.str rule.type))).obj (by decide)

end StrategyRule

namespace ResourcesRule

/-- The rule as far as the named fields say it. -/
def upTo (names : List String) (rule : ResourcesRule) : ResourcesRule where
  requests := if "requests" ∈ names then rule.requests else .empty
  limits := if "limits" ∈ names then rule.limits else .empty

theorem get?_encode (rule : ResourcesRule) (name : String) :
    rule.encode.get? name =
      if name = "requests" then some (Json.ofTable .bool rule.requests)
      else if name = "limits" then some (Json.ofTable .bool rule.limits)
      else none := by
  rw [encode, Json.get?_obj]
  simp only [List.reverse_cons, List.reverse_nil, List.nil_append, List.cons_append,
    lookup_cons_eq_ite, List.lookup_nil]

theorem written : record.Written encode upTo where
  object _ := ⟨_, rfl⟩
  nothing _ := rfl
  set := by
    intro rule medium name part document names known found spelled
    have read {flags : Table Bool} (written : Json.ofTable .bool flags = part) :
        Decode.table Decode.bool medium document = .ok flags :=
      recovers_bool.table (written ▸ spelled)
    rw [get?_encode] at found
    simp only [record, List.mem_cons, List.not_mem_nil, or_false] at known
    rcases known with rfl | rfl
    · simp [record, upTo, read (Option.some.inj found), bind, Except.bind, pure, Except.pure]
    · simp [record, upTo, read (Option.some.inj found), bind, Except.bind, pure, Except.pure]
  all := by
    intro rule names areFields
    simp [upTo, areFields, get?_encode, record]

theorem recovers_strict : Recovers record.strict encode :=
  written.recovers_strict fun rule => by simp [record]

theorem plain_encode {depth : Nat} (rule : ResourcesRule) :
    rule.encode.Plain (depth + 2) :=
  have flags {name : String} (table : Table Bool) :
      PlainMembers (depth + 1) [name] [(name, ofTable .bool table)] :=
    .single (plain_ofTable .bool table)
  ((flags rule.limits).append (flags rule.requests)).obj (by decide)

end ResourcesRule

namespace PolicySpec

/-- The spec as far as the named fields say it. -/
def upTo (names : List String) (spec : PolicySpec) : PolicySpec where
  weight := if "weight" ∈ names then spec.weight else 0
  selector := if "selector" ∈ names then spec.selector else none
  replicas := if "replicas" ∈ names then spec.replicas else none
  strategy := if "strategy" ∈ names then spec.strategy else none
  resources := if "resources" ∈ names then spec.resources else none

theorem get?_encode (spec : PolicySpec) (name : String) :
    spec.encode.get? name =
      if name = "weight" then some (.int spec.weight.toInt)
      else if name = "selector" then spec.selector.map LabelSelector.encode
      else if name = "replicas" then spec.replicas.map ReplicasRule.encode
      else if name = "strategy" then spec.strategy.map StrategyRule.encode
      else if name = "resources" then spec.resources.map ResourcesRule.encode
      else none := by
  rw [encode, Json.get?_obj]
  simp only [List.reverse_append, List.lookup_append, Json.lookup_optional, List.reverse_cons,
    List.reverse_nil, List.nil_append, lookup_cons_eq_ite, List.lookup_nil]
  grind

theorem written : record.Written encode upTo where
  object _ := ⟨_, rfl⟩
  nothing _ := rfl
  set := by
    intro spec medium name part document names known found spelled
    rw [get?_encode] at found
    simp only [record, List.mem_cons, List.not_mem_nil, or_false] at known
    rcases known with rfl | rfl | rfl | rfl | rfl
    · cases found
      have read : Decode.int32 medium document = .ok spec.weight := recovers_int32 spelled
      simp [record, upTo, read, bind, Except.bind, pure, Except.pure]
    · have read : Decode.optional LabelSelector.decode medium document = .ok spec.selector :=
        LabelSelector.recovers_decode.optional (by simp [LabelSelector.encode]) found spelled
      simp [record, upTo, read, bind, Except.bind, pure, Except.pure]
    · have read : Decode.optional ReplicasRule.record.strict medium document = .ok spec.replicas :=
        ReplicasRule.recovers_strict.optional (by simp [ReplicasRule.encode]) found spelled
      simp [record, upTo, read, bind, Except.bind, pure, Except.pure]
    · have read : Decode.optional StrategyRule.record.strict medium document = .ok spec.strategy :=
        StrategyRule.recovers_strict.optional (by simp [StrategyRule.encode]) found spelled
      simp [record, upTo, read, bind, Except.bind, pure, Except.pure]
    · have read : Decode.optional ResourcesRule.record.strict medium document =
          .ok spec.resources :=
        ResourcesRule.recovers_strict.optional (by simp [ResourcesRule.encode]) found spelled
      simp [record, upTo, read, bind, Except.bind, pure, Except.pure]
  all := by
    intro spec names areFields
    simp [upTo, areFields, get?_encode, record, ite_isSome]

theorem recovers_decode : Recovers decode encode :=
  written.recovers_strict fun spec => by simp [record]

theorem plain_encode {depth : Nat} (spec : PolicySpec) :
    spec.encode.Plain (depth + 5) :=
  PlainMembers.obj (((((PlainMembers.optional ReplicasRule.plain_encode spec.replicas).append
    (.optional ResourcesRule.plain_encode spec.resources)).append
    (.optional LabelSelector.plain_encode spec.selector)).append
    (.optional StrategyRule.plain_encode spec.strategy)).append
    (.single (plain_int32 spec.weight))) (by decide)

end PolicySpec

/-! ### The laws together -/

/-- Decoding undoes encoding, in memory and in text, and reading and writing once brings a value
into its final form. -/
structure Decode.RoundTrips {α : Type} (decode : Decoder α) (encode : α → Json) : Prop where
  spelled : ∀ value medium document, document.Spells (encode value) →
    decode medium document = .ok value
  inMemory : ∀ value, ofJson decode (encode value) = .ok value
  inText : ∀ value, ofText decode (encode value).compact = .ok value
  injective : Function.Injective encode
  injectiveText : Function.Injective fun value => (encode value).compact
  idempotent : ∀ value normal, encode <$> ofJson decode value = .ok normal →
    encode <$> ofJson decode normal = .ok normal

theorem PolicySpec.decode_roundTrips : RoundTrips decode encode := by
  have inText (spec : PolicySpec) : ofText decode spec.encode.compact = .ok spec := by
    have plain : spec.encode.Plain (122 + 5) := plain_encode spec
    exact recovers_decode.ofText (Document.writes_compact plain)
  constructor
  case spelled => exact fun spec medium document spells => recovers_decode spells
  case inMemory => exact recovers_decode.ofJson
  case inText => exact inText
  case injective => exact recovers_decode.injective
  case injectiveText =>
    intro left right same
    have leftRead := inText left
    have sameText : left.encode.compact = right.encode.compact := same
    rw [sameText, inText right] at leftRead
    exact (Except.ok.inj leftRead).symm
  case idempotent =>
    intro value normal normalizes
    cases decoded : ofJson decode value with
    | error failure =>
        rw [decoded] at normalizes
        cases normalizes
    | ok spec =>
        rw [decoded] at normalizes
        cases normalizes
        rw [recovers_decode.ofJson spec]
        rfl

end AvailabilityGate
