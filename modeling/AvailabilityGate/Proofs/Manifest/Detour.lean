import AvailabilityGate.Gateway.Basic
import AvailabilityGate.Proofs.Decode.InMemory
import AvailabilityGate.Proofs.Manifest.Parts
import AvailabilityGate.Proofs.Manifest.Reading
import Mathlib

/-!
Owns the reading of an object as a Deployment by way of a manifest. A Deployment stores the types of
the object first and keeps nothing of them, then its metadata, and these are read alike before and
after they went through the manifest.

Main statement: the Deployment, or the failure, is the same as without the detour, from a text as
from memory.
-/

namespace AvailabilityGate

open Fallible

theorem foldlM_eq_of_kept {ε α β : Type} {step : β → α → Except ε β} {items : List α}
    {before after : β}
    (kept : ∀ item ∈ items, ∀ next, step before item = .ok next → next = before)
    (succeeds : items.foldlM step before = .ok after) : after = before := by
  induction items with
  | nil => exact (Except.ok.inj succeeds).symm
  | cons head tail inductionHypothesis =>
      obtain ⟨keptHead, keptTail⟩ := List.forall_mem_cons.mp kept
      obtain ⟨next, stepped, rest⟩ := bind_eq_ok_iff.mp succeeds
      rw [keptHead next stepped] at rest
      exact inductionHypothesis keptTail rest

namespace Deployment

open Decode

/-- The same Deployment under other metadata. -/
def withMetadata (metadata : ObjectMeta) (deployment : Deployment) : Deployment :=
  { deployment with metadata }

theorem store_type {member : String × Document} (isType : member.1 ∈ ["apiVersion", "kind"])
    {before after : Deployment} (stored : record.store before member = .ok after) :
    after = before := by
  obtain ⟨name, document⟩ := member
  have set := withinMember_eq_ok_iff.mp stored
  simp only [List.mem_cons, List.not_mem_nil, or_false] at isType
  rcases isType with rfl | rfl
  · obtain ⟨_, _, same⟩ := bind_eq_ok_iff.mp set
    exact (Except.ok.inj same).symm
  · obtain ⟨_, _, same⟩ := bind_eq_ok_iff.mp set
    exact (Except.ok.inj same).symm

theorem store_metadata {part : Json} {metadata : ObjectMeta}
    (decoded : Decode.ofJson ObjectMeta.decode part = .ok metadata) (before : Deployment) :
    record.store before ("metadata", .ofJson part) = .ok { before with metadata } := by
  have present : Document.ofJson part ≠ .null := by
    intro isNull
    rw [Decode.ofJson, isNull] at decoded
    simp [ObjectMeta.decode, Record.loose] at decoded
  have read : optional ObjectMeta.decode .value (.ofJson part) = .ok (some metadata) := by
    rw [Decode.ofJson] at decoded
    rw [optional_of_ne_null present, decoded]
    rfl
  refine withinMember_eq_ok_iff.mpr ?_
  change (optional ObjectMeta.decode .value (.ofJson part) >>= fun metadata => _) = _
  rw [read]
  rfl

theorem foldlM_metadata {entries : List (String × Json)} {metadata : ObjectMeta}
    (isMetadata : FieldIs ObjectMeta.decode {} entries "metadata" metadata) :
    (namedMembers ["metadata"] entries).foldlM record.store {} =
      .ok (withMetadata metadata {}) := by
  cases found : (Json.obj entries).get? "metadata" with
  | none =>
      obtain rfl := (fieldIs_of_missing found).mp isMetadata
      simp [namedMembers, found, withMetadata, pure, Except.pure]
  | some part =>
      have decoded := (fieldIs_of_found found).mp isMetadata
      simp [namedMembers, found, store_metadata decoded, withMetadata]

theorem ofJson_decode_eq (entries : List (String × Json)) :
    Decode.ofJson decode (.obj entries) = (do
      let typed ← (namedMembers ["apiVersion", "kind"] entries).foldlM record.store {}
      let named ← (namedMembers ["metadata"] entries).foldlM record.store typed
      (namedMembers ["spec", "status"] entries).foldlM record.store named) := by
  have fields : record.fields =
      ["apiVersion", "kind"] ++ (["metadata"] ++ ["spec", "status"]) := rfl
  have start : record.empty = {} := rfl
  rw [decode, Record.loose_ofJson (by decide), fields, start, namedMembers,
    List.filterMap_append, List.filterMap_append, List.foldlM_append]
  simp only [List.foldlM_append, namedMembers]

/-- The types are looked at and not kept. -/
theorem foldlM_types {entries : List (String × Json)} {after : Deployment}
    (typed : (namedMembers ["apiVersion", "kind"] entries).foldlM record.store {} = .ok after) :
    after = {} :=
  foldlM_eq_of_kept
    (fun _ among _ stored => store_type (name_mem_of_mem_namedMembers among) stored) typed

/-- The fields behind the metadata are stored whatever the metadata are. -/
theorem store_withMetadata {member : String × Document} (behind : member.1 ∈ ["spec", "status"])
    (metadata : ObjectMeta) (before : Deployment) :
    record.store (before.withMetadata metadata) member =
      withMetadata metadata <$> record.store before member := by
  obtain ⟨name, document⟩ := member
  rw [Record.store, Record.store, ← withinMember_map]
  congr 1
  simp only [List.mem_cons, List.not_mem_nil, or_false] at behind
  rcases behind with rfl | rfl
  · change (optional DeploymentSpec.record.loose .value document >>= fun spec => _) =
      withMetadata metadata <$>
        (optional DeploymentSpec.record.loose .value document >>= fun spec => _)
    cases optional DeploymentSpec.record.loose .value document <;> rfl
  · change (optional status.look .value document >>= fun _ => _) =
      withMetadata metadata <$> (optional status.look .value document >>= fun _ => _)
    cases optional status.look .value document <;> rfl

theorem ofJson_decode_of_metadata {entries : List (String × Json)} {metadata : ObjectMeta}
    (isMetadata : FieldIs ObjectMeta.decode {} entries "metadata" metadata) :
    Decode.ofJson decode (.obj entries) = (do
      let _ ← (namedMembers ["apiVersion", "kind"] entries).foldlM record.store {}
      withMetadata metadata <$>
        (namedMembers ["spec", "status"] entries).foldlM record.store {}) := by
  rw [ofJson_decode_eq, ← foldlM_eq_map_of_step fun member among before =>
    store_withMetadata (name_mem_of_mem_namedMembers among) metadata before]
  cases typed : (namedMembers ["apiVersion", "kind"] entries).foldlM record.store {} with
  | error failure => rfl
  | ok before => simp only [Except.bind, bind, foldlM_types typed, foldlM_metadata isMetadata]

/-- Of objects that differ in their metadata at most, the rest is read alike. -/
theorem ofJson_decode_eq_withMetadata {entries others : List (String × Json)}
    {metadata otherMetadata : ObjectMeta}
    (same : ∀ name, name ≠ "metadata" → ((Json.obj entries).get? name).map Document.ofJson =
      ((Json.obj others).get? name).map .ofJson)
    (left : FieldIs ObjectMeta.decode {} entries "metadata" metadata)
    (right : FieldIs ObjectMeta.decode {} others "metadata" otherMetadata) :
    Decode.ofJson decode (.obj others) =
      withMetadata otherMetadata <$> Decode.ofJson decode (.obj entries) := by
  have sameTypes : namedMembers ["apiVersion", "kind"] entries =
      namedMembers ["apiVersion", "kind"] others :=
    namedMembers_congr fun name member => same name (by grind)
  have sameRest : namedMembers ["spec", "status"] entries =
      namedMembers ["spec", "status"] others :=
    namedMembers_congr fun name member => same name (by grind)
  rw [ofJson_decode_of_metadata left, ofJson_decode_of_metadata right, sameTypes, sameRest]
  cases (namedMembers ["apiVersion", "kind"] others).foldlM record.store {} with
  | error failure => rfl
  | ok _ => cases (namedMembers ["spec", "status"] others).foldlM record.store {} <;> rfl

/-- Metadata are read alike before and after they were decoded. -/
theorem ofJson_decode_congr {entries others : List (String × Json)} {metadata : ObjectMeta}
    (same : ∀ name, name ≠ "metadata" → ((Json.obj entries).get? name).map Document.ofJson =
      ((Json.obj others).get? name).map .ofJson)
    (left : FieldIs ObjectMeta.decode {} entries "metadata" metadata)
    (right : FieldIs ObjectMeta.decode {} others "metadata" metadata) :
    Decode.ofJson decode (.obj entries) = Decode.ofJson decode (.obj others) := by
  rw [ofJson_decode_eq_withMetadata same left right]
  exact ofJson_decode_eq_withMetadata (fun _ _ => rfl) left left

end Deployment

namespace Manifest

theorem TakenFrom.deployment_eq {entries : List (String × Json)} {manifest : Manifest}
    (takenFrom : TakenFrom entries manifest) :
    manifest.deployment = Decode.ofJson Deployment.decode (.obj entries) := by
  have get?_eq := takenFrom.get?_encode_eq
  rw [encode] at get?_eq
  rw [deployment, encode]
  refine Deployment.ofJson_decode_congr (fun name other => ?same) ?metadata takenFrom.metadata
  case same => rw [get?_eq, if_neg other]
  case metadata =>
    obtain ⟨part, found, samePart⟩ := Option.map_eq_some_iff.mp (get?_eq "metadata")
    rw [Decode.fieldIs_of_found found, Decode.ofJson, samePart]
    exact ObjectMeta.recovers_decode.ofJson manifest.metadata

theorem deployment_eq_direct {medium : Medium} {document : Document}
    {entries : List (String × Json)} (spells : document.Spells (.obj entries))
    (detachable : Detachable entries) :
    ∃ manifest, decode medium document = .ok manifest ∧
      manifest.deployment = Decode.ofJson Deployment.decode (.obj entries) ∧
      Gateway.deployment? (some manifest) =
        ((Decode.ofJson Deployment.decode (.obj entries)).mapError fun failure =>
          .undecodable failure.message) ∧
      ∀ policy : PolicySpec, policy.validate <$> manifest.deployment =
        policy.validate <$> Decode.ofJson Deployment.decode (.obj entries) := by
  obtain ⟨manifest, decoded, takenFrom⟩ := exists_takenFrom spells detachable
  have same := takenFrom.deployment_eq
  refine ⟨manifest, decoded, same, ?_, fun policy => by rw [same]⟩
  rw [Gateway.deployment?, same]

/-- Metadata with a moment by the clock of another zone, an owner of whom not all is said, parts
that are not in order, a member that is null and one that is not known. -/
def annotatedMetadata : Json :=
  .obj [("uid", .str "5c0e"), ("name", .str "web"),
    ("creationTimestamp", .str "2024-01-31T23:30:00-01:00"), ("labels", .null),
    ("managedFields", .arr [.obj [("manager", .str "kubectl"),
      ("fieldsV1", .obj [("f:status", .obj []), ("f:spec", .obj [])])]]),
    ("ownerReferences", .arr [.obj [("name", .str "shop"), ("controller", .bool true)]]),
    ("generation", .int 7), ("colour", .str "blue")]

/-- The same metadata as they are written again. -/
def annotatedAgain : Json :=
  .obj [("creationTimestamp", .str "2024-02-01T00:30:00Z"), ("generation", .int 7),
    ("managedFields", .arr [.obj [("fieldsV1", .obj [("f:spec", .obj []), ("f:status", .obj [])]),
      ("manager", .str "kubectl")]]),
    ("name", .str "web"),
    ("ownerReferences", .arr [.obj [("apiVersion", .str ""), ("controller", .bool true),
      ("kind", .str ""), ("name", .str "shop"), ("uid", .str "")]]),
    ("uid", .str "5c0e")]

/-- A Deployment with such metadata. -/
def annotated : List (String × Json) :=
  [("apiVersion", .str "apps/v1"), ("kind", .str "Deployment"), ("metadata", annotatedMetadata),
    ("spec", .obj [("replicas", .int 3)])]

theorem detachable_annotated : Detachable annotated where
  types := .inl ⟨"apps/v1", "Deployment", by cbv, by cbv⟩
  metadata part found := by
    have isPart : part = annotatedMetadata := (Option.some.inj found).symm
    have written : ObjectMeta.encode <$> Decode.ofJson ObjectMeta.decode annotatedMetadata =
        .ok annotatedAgain := by cbv
    obtain ⟨metadata, decoded, _⟩ := map_eq_ok_iff.mp written
    exact ⟨metadata, isPart ▸ decoded⟩

theorem deployment_eq_direct_annotated :
    Detachable annotated ∧ ∃ manifest deployment,
      Decode.ofJson decode (.obj annotated) = .ok manifest ∧
      manifest.deployment = .ok deployment ∧
      manifest.metadata.encode = annotatedAgain ∧
      deployment.metadata.encode = annotatedAgain ∧ deployment.replicas = some 3 := by
  obtain ⟨manifest, decoded, same, _⟩ :=
    deployment_eq_direct (Document.spells_ofJson (.obj annotated)) detachable_annotated
  have written : (fun manifest => manifest.metadata.encode) <$>
      Decode.ofJson decode (.obj annotated) = .ok annotatedAgain := by cbv
  have direct : (fun deployment => (deployment.metadata.encode, deployment.replicas)) <$>
      Decode.ofJson Deployment.decode (.obj annotated) = .ok (annotatedAgain, some 3) := by cbv
  obtain ⟨deployment, isDeployment, isWritten⟩ := map_eq_ok_iff.mp direct
  obtain ⟨sameMetadata, sameReplicas⟩ := Prod.mk.inj isWritten
  rw [Decode.ofJson, decoded] at written
  exact ⟨detachable_annotated, manifest, deployment, decoded, same.trans isDeployment,
    Except.ok.inj written, sameMetadata, sameReplicas⟩

/-! ### Objects that are no Deployments -/

/-- Nothing of the value is lost in a manifest. -/
def Faithful (value : Json) : Prop :=
  value = .null ∨ ∃ entries, value = .obj entries ∧ Detachable entries

theorem Faithful.readable {value : Json} (faithful : Faithful value) : Readable value :=
  faithful.imp_right fun ⟨entries, same, detachable⟩ => ⟨entries, same, detachable.metadata⟩

theorem exists_fault_of_faithful {value : Json} (faithful : Faithful value) {medium : Medium}
    {document : Document} (spells : document.Spells value)
    (undecoded : ∀ deployment, Decode.ofJson Deployment.decode value ≠ .ok deployment) :
    ∃ decoded fault, Decode.optional decode medium document = .ok decoded ∧
      Gateway.deployment? decoded = .error fault := by
  obtain rfl | ⟨entries, rfl, detachable⟩ := faithful
  · cases spells
    exact ⟨none, _, rfl, rfl⟩
  · obtain ⟨manifest, decoded, takenFrom⟩ := exists_takenFrom spells detachable
    have read : Decode.optional decode medium document = .ok (some manifest) := by
      rw [Decode.optional_of_ne_null (spells.ne_null (by simp)), decoded]
      rfl
    cases direct : Decode.ofJson Deployment.decode (.obj entries) with
    | ok deployment => exact absurd direct (undecoded deployment)
    | error failure =>
        refine ⟨some manifest, .undecodable failure.message, read, ?_⟩
        rw [Gateway.deployment?, takenFrom.deployment_eq, direct]
        rfl

end Manifest

end AvailabilityGate
