import AvailabilityGate.Proofs.Document.Compact
import AvailabilityGate.Proofs.Gateway.Decision
import AvailabilityGate.Proofs.Manifest.Metadata
import AvailabilityGate.Proofs.Policy.Published
import Mathlib

/-!
Owns what stored policies do to the listing of their namespace. One policy that is not decoded
spoils the listing, and then no Deployment of the namespace is admitted.

Main statements: of what the schema describes that is decoded whose bounds fit 32 bits, and only
what is not can spoil a listing; there are policies that the schema describes and that do.
-/

namespace AvailabilityGate

open Decode

namespace Policy

/-- A policy as the cluster stores it: the schema describes it, and it has metadata like any object
in the cluster. -/
structure Stored (item : Json) : Prop where
  described : Schema.policy.Valid item
  metadata : ∃ part, item.get? "metadata" = some part ∧ TakesIf ObjectMeta.decode part True

def BoundsFit (item : Json) : Prop :=
  ∀ spec, item.get? "spec" = some spec → PolicySpec.BoundsFit spec

theorem Stored.takesIf_decode {item : Json} (stored : Stored item) :
    TakesIf decode item (BoundsFit item) := by
  obtain ⟨described, metadata, hasMetadata, metadataDecodes⟩ := stored
  have notNull : item ≠ .null := described.ne_null rfl
  obtain ⟨_, isNull⟩ | ⟨entries, rfl, present, partsValid⟩ := described
  · exact absurd isNull notNull
  have stores : ∀ name ∈ record.fields, ∀ part, (Json.obj entries).get? name = some part →
      record.StoresIf name part (FitsAt "spec" PolicySpec.BoundsFit name part) := by
    intro name known part found _ _ _ spelled
    simp only [record, List.mem_cons, List.not_mem_nil, or_false] at known
    rcases known with rfl | rfl
    · cases hasMetadata.symm.trans found
      exact (metadataDecodes.stores spelled _).trans (by simp [FitsAt])
    · have partValid := Schema.validFields_iff.mp partsValid _ (.head _) part found
      have takes := PolicySpec.follows_decode.present rfl partValid
      exact (takes.stores spelled _).trans (by simp [FitsAt])
  have complete : ∀ name ∈ record.required,
      name ∈ record.fields ∧ ((Json.obj entries).get? name).isSome := by
    simp [record, hasMetadata, present "spec" (.head _)]
  refine (Record.takesIf_strict stores complete).congr ?_
  simp [Record.AllFit, FitsAt, BoundsFit, record]

end Policy

namespace Listing

/-- The answer lists the items, each of them as it is stored. -/
structure Answer.Lists (answer : Answer) (items : List Json) : Prop where
  succeeds : Http.isFailure answer.status = false
  written : ∃ entries, Document.Writes answer.body (.obj entries) ∧
    (Json.obj entries).get? "items" = some (.arr items) ∧
    ∀ part, (Json.obj entries).get? "metadata" = some part → TakesIf listMeta.loose part True
  stored : ∀ item ∈ items, Policy.Stored item

theorem takesIf_policyList {entries : List (String × Json)} {items : List Json}
    (hasItems : (Json.obj entries).get? "items" = some (.arr items))
    (metadata : ∀ part, (Json.obj entries).get? "metadata" = some part →
      TakesIf listMeta.loose part True)
    (stored : ∀ item ∈ items, Policy.Stored item) :
    TakesIf policyList.strict (.obj entries) (∀ item ∈ items, Policy.BoundsFit item) := by
  have takesItems : TakesIf (Decode.optional (Decode.list Policy.decode)) (.arr items)
      (∀ item ∈ items, Policy.BoundsFit item) :=
    (TakesIf.list fun item member => (stored item member).takesIf_decode).optional (by simp)
  have stores : ∀ name ∈ policyList.fields, ∀ part, (Json.obj entries).get? name = some part →
      policyList.StoresIf name part (name = "items" → ∀ item ∈ items, Policy.BoundsFit item) := by
    intro name known part found _ _ _ spelled
    simp only [policyList, List.mem_cons, List.not_mem_nil, or_false] at known
    rcases known with rfl | rfl
    · exact ((metadata part found).stores spelled _).trans (by simp)
    · cases hasItems.symm.trans found
      exact (takesItems.stores spelled _).trans (by simp)
  have complete : ∀ name ∈ policyList.required,
      name ∈ policyList.fields ∧ ((Json.obj entries).get? name).isSome := by
    simp [policyList, hasItems]
  refine (Record.takesIf_strict stores complete).congr ?_
  simp [Record.AllFit, policyList, hasItems]

theorem decodes_iff {medium : Medium} {document : Document} {entries : List (String × Json)}
    (spells : document.Spells (.obj entries)) :
    Decodes decode medium document ↔ Decodes policyList.strict medium document := by
  obtain ⟨members, rfl⟩ := spells.exists_members
  unfold Decodes decode
  rw [Record.openRecord_of_spells spells]
  cases policyList.strict medium (.obj members none) <;>
    simp [Except.map, bind, Except.bind, pure, Except.pure]

theorem Answer.policies_succeed_iff {answer : Answer} {items : List Json}
    (lists : answer.Lists items) :
    (∃ policies, answer.policies = .ok policies) ↔ ∀ item ∈ items, Policy.BoundsFit item := by
  obtain ⟨entries, ⟨spelled, nothingTrails⟩, hasItems, metadata⟩ := lists.written
  have takes := takesIf_policyList hasItems metadata lists.stored
  rw [← takes spelled, ← decodes_iff spelled, policies, lists.succeeds]
  simp only [Bool.false_eq_true, if_false, Fallible.mapError_eq_ok_iff, ofText, nothingTrails]
  exact Fallible.succeeds_store_iff

end Listing

/-! ### The schema and the decoding -/

/-- Asked for the policies of the namespace, the cluster lists the items. -/
def Listing.Serves (ask : Http.Uri → Listing.Answer) (home : String) (items : List Json) : Prop :=
  ∃ uri, Listing.request home = .ok uri ∧ (ask uri).Lists items

theorem Listing.list_succeeds_iff {ask : Http.Uri → Answer} {home : String} {items : List Json}
    (serves : Serves ask home items) :
    (∃ policies, PolicySource.cluster ask home = .ok policies) ↔
      ∀ item ∈ items, Policy.BoundsFit item := by
  obtain ⟨uri, requested, lists⟩ := serves
  have listed : list ask home = (ask uri).policies := by
    rw [list, requested]
    rfl
  simp only [PolicySource.cluster, listed, Fallible.mapError_eq_ok_iff]
  exact Answer.policies_succeed_iff lists

/-- Of the specs that the schema describes those are decoded whose bounds fit. So only a bound that
does not fit can spoil a listing, and where one does, no Deployment of the namespace is admitted. -/
theorem PolicySpec.described_decodes_iff :
    (∀ value, Schema.policySpec.Valid value → ∀ medium document, document.Spells value →
      ((∃ spec, decode medium document = .ok spec) ↔ BoundsFit value)) ∧
    ∀ ask home items, Listing.Serves ask home items →
      ((∃ policies, PolicySource.cluster ask home = .ok policies) ↔
        ∀ item ∈ items, Policy.BoundsFit item) ∧
      ((∃ item ∈ items, ¬ Policy.BoundsFit item) → ∀ config request deployment,
        Gateway.Carries ⟨config, .cluster ask⟩ request deployment home →
          (Gateway.review ⟨config, .cluster ask⟩ request).verdict.status =
            some (500, "InternalError")) := by
  refine ⟨fun value valid medium document spells => ?decoding, fun ask home items serves => ?_⟩
  case decoding => exact follows_decode.present rfl valid spells
  have listing := Listing.list_succeeds_iff serves
  refine ⟨listing, fun spoilt config request deployment carries => ?_⟩
  obtain ⟨item, member, unfit⟩ := spoilt
  cases outcome : PolicySource.cluster ask home with
  | ok policies => exact absurd (listing.mp ⟨policies, outcome⟩ item member) unfit
  | error fault =>
      rw [carries.verdict_of_unlisted outcome]
      obtain ⟨cause, _, rfl⟩ := Fallible.mapError_eq_error_iff.mp outcome
      rfl

/-! ### Surging policies -/

/-- A spec with a bound that is a whole number. -/
def PolicySpec.surging (surge : Int) : Json :=
  .obj [("strategy", .obj [
    ("rollingUpdate", .obj [("maxSurge", .int surge)]), ("type", .str "RollingUpdate")])]

def Policy.surging (surge : Int) : Json :=
  .obj [("metadata", .obj [("name", .str "surge")]), ("spec", PolicySpec.surging surge)]

/-- The cluster answers everything with a list of such policies. -/
def Listing.surging (surges : List Int) (_ : Http.Uri) : Answer where
  status := 200
  body := (Json.obj [("items", .arr (surges.map Policy.surging))]).compact

section Surging

variable (surge : Int)

theorem PolicySpec.valid_surging : Schema.policySpec.Valid (surging surge) := by
  simp [surging, Schema.policySpec, Schema.strategy, Schema.rollingUpdate, Schema.Valid,
    Schema.ValidFields, Schema.AllowsNull, Schema.described, Schema.optionalPart, Json.get?_obj,
    lookup_cons_eq_ite]

theorem PolicySpec.boundsFit_surging_iff : BoundsFit (surging surge) ↔ FitsInt32 surge := by
  simp [BoundsFit, surging, Json.at?, Json.get?_obj, lookup_cons_eq_ite]

theorem Policy.boundsFit_surging_iff : BoundsFit (surging surge) ↔ FitsInt32 surge := by
  rw [← PolicySpec.boundsFit_surging_iff]
  simp [BoundsFit, surging, Json.get?_obj, lookup_cons_eq_ite]

theorem Policy.stored_surging : Stored (surging surge) where
  described := by
    have valid := PolicySpec.valid_surging surge
    simpa [surging, Schema.policy, Schema.Valid, Schema.ValidFields, Schema.AllowsNull,
      Json.get?_obj, lookup_cons_eq_ite] using valid
  metadata := by
    have named : ObjectMeta.encode { name := some "surge" } = .obj [("name", .str "surge")] := rfl
    refine ⟨.obj [("name", .str "surge")], by simp [surging, Json.get?_obj, lookup_cons_eq_ite],
      fun medium document spells => ?_⟩
    exact iff_of_true ⟨_, ObjectMeta.recovers_decode (named ▸ spells)⟩ trivial

theorem Policy.plain_surging {depth : Nat} (fits : Document.FitsWord surge) :
    (surging surge).Plain (depth + 4) := by
  have metadata : (Json.obj [("name", .str "surge")]).Plain (depth + 3) :=
    (Json.PlainMembers.single (.str "surge")).obj (by decide)
  have rollingUpdate : (Json.obj [("maxSurge", .int surge)]).Plain (depth + 1) :=
    (Json.PlainMembers.single (.int fits)).obj (by decide)
  have strategy : (Json.obj [("rollingUpdate", .obj [("maxSurge", .int surge)]),
      ("type", .str "RollingUpdate")]).Plain (depth + 2) :=
    ((Json.PlainMembers.single rollingUpdate).append (.single (.str "RollingUpdate"))).obj
      (by decide)
  have spec : (PolicySpec.surging surge).Plain (depth + 3) :=
    (Json.PlainMembers.single strategy).obj (by decide)
  exact ((Json.PlainMembers.single metadata).append (.single spec)).obj (by decide)

end Surging

theorem Listing.serves_surging {surges : List Int}
    (fits : ∀ surge ∈ surges, Document.FitsWord surge) :
    Serves (surging surges) "default" (surges.map Policy.surging) := by
  have plain : (Json.obj [("items", .arr (surges.map Policy.surging))]).Plain (121 + 6) := by
    have items : (Json.arr (surges.map Policy.surging)).Plain (121 + 5) := by
      refine .arr (List.forall_mem_map.mpr fun surge member => ?_)
      exact Policy.plain_surging surge (fits surge member)
    exact (Json.PlainMembers.single items).obj (by decide)
  have requested : request "default" = .ok {
      path := "/apis/barbossa.sphc.io/v1alpha1/namespaces/default/highavailabilitypolicies"
      query := some "" } := rfl
  refine ⟨_, requested, rfl, ⟨_, Document.writes_compact plain, ?items, ?metadata⟩, ?stored⟩
  case items => simp [Json.get?_obj, lookup_cons_eq_ite]
  case metadata => simp [Json.get?_obj, lookup_cons_eq_ite]
  case stored => exact List.forall_mem_map.mpr fun surge _ => Policy.stored_surging surge

/-- The schema takes any whole number for a bound, and the decoding does not. -/
theorem PolicySpec.described_undecoded :
    Schema.policySpec.Valid (surging 2147483648) ∧
      (∀ spec, ofJson decode (surging 2147483648) ≠ .ok spec) ∧
      ∀ policies, PolicySource.cluster (Listing.surging [2147483648]) "default" ≠ .ok policies := by
  have serves : Listing.Serves (Listing.surging [2147483648]) "default"
      ([2147483648].map Policy.surging) := Listing.serves_surging (by decide)
  refine ⟨valid_surging _, fun spec decoded => ?_, fun policies listed => ?_⟩
  · have takes := follows_decode.present rfl (valid_surging 2147483648)
    have fits := (takes (Document.spells_ofJson _)).mp ⟨spec, decoded⟩
    exact absurd ((boundsFit_surging_iff _).mp fits) (by decide)
  · have fits := (Listing.list_succeeds_iff serves).mp ⟨policies, listed⟩
    exact absurd ((Policy.boundsFit_surging_iff _).mp (fits _ (.head _))) (by decide)

/-- One less than the bound that is too large is decoded; in one listing with it, nothing is. -/
theorem PolicySpec.described_decodes_iff_surging :
    (Schema.policySpec.Valid (surging 2147483647) ∧
      ∃ spec, decode .value (.ofJson (surging 2147483647)) = .ok spec) ∧
    (Listing.Serves (Listing.surging [2147483647]) "default" [Policy.surging 2147483647] ∧
      ∃ policies, PolicySource.cluster (Listing.surging [2147483647]) "default" = .ok policies) ∧
    (Listing.Serves (Listing.surging [2147483647, 2147483648]) "default"
        [Policy.surging 2147483647, Policy.surging 2147483648] ∧
      (Gateway.review ⟨default, .cluster (Listing.surging [2147483647, 2147483648])⟩
        (Gateway.singleReplica "default")).verdict.status = some (500, "InternalError")) := by
  have valid : Schema.policySpec.Valid (surging 2147483647) := valid_surging _
  have fitting : Listing.Serves (Listing.surging [2147483647]) "default"
      [Policy.surging 2147483647] := Listing.serves_surging (by decide)
  have spoilt : Listing.Serves (Listing.surging [2147483647, 2147483648]) "default"
      [Policy.surging 2147483647, Policy.surging 2147483648] := Listing.serves_surging (by decide)
  refine ⟨⟨valid, ?_⟩, ⟨fitting, ?_⟩, spoilt, ?_⟩
  · have decodes_iff := described_decodes_iff.1 _ valid .value _ (Document.spells_ofJson _)
    exact decodes_iff.mpr ((boundsFit_surging_iff _).mpr (by decide))
  · refine (described_decodes_iff.2 _ _ _ fitting).1.mpr ?_
    simpa [Policy.boundsFit_surging_iff] using (by decide : FitsInt32 2147483647)
  · have unfit : ¬ Policy.BoundsFit (Policy.surging 2147483648) := by
      rw [Policy.boundsFit_surging_iff]
      decide
    have carries : Gateway.Carries ⟨default, .cluster (Listing.surging [2147483647, 2147483648])⟩
        (Gateway.singleReplica "default")
        { metadata := { name := some "web" }, spec := some { replicas := some 1 } } "default" := by
      refine ⟨?watched, ⟨_, rfl, by cbv⟩, rfl⟩
      rw [← Gateway.ignores_iff]
      decide
    exact (described_decodes_iff.2 _ _ _ spoilt).2 ⟨_, .tail _ (.head _), unfit⟩ _ _ _ carries

end AvailabilityGate
