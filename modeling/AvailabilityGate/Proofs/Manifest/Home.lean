import AvailabilityGate.Proofs.Manifest.Detour

/-!
Owns what becomes of the namespace of an object on the way to a Deployment. Nothing else of the
object depends on it, so an object that is moved to another namespace, or to none, is read as
before.

Main statement: to move an object and to read it come to the same in either order, if it fails to be
read as well.
-/

namespace AvailabilityGate

open Fallible

/-- The metadata of the same object in the given namespace, or in none. -/
def ObjectMeta.livingIn (home : Option String) (metadata : ObjectMeta) : ObjectMeta :=
  { metadata with home }

/-- The same Deployment in the given namespace, or in none. -/
def Deployment.livingIn (home : Option String) (deployment : Deployment) : Deployment :=
  { deployment with metadata := deployment.metadata.livingIn home }

namespace Manifest

/-- The same object in the given namespace, or in none. -/
def livingIn (home : Option String) (manifest : Manifest) : Manifest :=
  { manifest with metadata := manifest.metadata.livingIn home }

/-- The manifest was read, from a text or from memory. -/
def WasRead (manifest : Manifest) : Prop :=
  ∃ medium document, decode medium document = .ok manifest

open Decode

theorem exists_member_of_jsonMembers {ending : Option SyntaxFault} {members : Document.Members}
    {values : List (String × Json)} (read : jsonMembers ending members = .ok values)
    {entry : String × Json} (among : entry ∈ values) :
    ∃ document, (.ok entry.1, document) ∈ members := by
  induction members generalizing values with
  | nil =>
      obtain ⟨_, _, isEmpty⟩ := bind_eq_ok_iff.mp read
      cases isEmpty
      cases among
  | cons head tail inductionHypothesis =>
      obtain ⟨named, document⟩ := head
      obtain ⟨name, isName, afterName⟩ := bind_eq_ok_iff.mp read
      obtain ⟨value, _, afterValue⟩ := bind_eq_ok_iff.mp afterName
      obtain ⟨rest, tailRead, isList⟩ := bind_eq_ok_iff.mp afterValue
      cases isList
      cases named
      case error => cases isName
      cases isName
      rcases List.mem_cons.mp among with rfl | later
      · exact ⟨document, List.mem_cons_self⟩
      · obtain ⟨other, isMember⟩ := inductionHypothesis tailRead later
        exact ⟨other, List.mem_cons_of_mem _ isMember⟩

/-- What is kept under a name was a member of that name. -/
theorem exists_member_of_keepMembers {members : List (String × Document)}
    {rest : List (String × Json)} (kept : keepMembers members = .ok rest) {name : String}
    {part : Json} (found : (Json.obj rest).get? name = some part) :
    ∃ document, (name, document) ∈ members := by
  obtain ⟨values, read, isRest⟩ := bind_eq_ok_iff.mp kept
  cases isRest
  have among : (name, part) ∈ values :=
    Document.mem_of_get? (Table.mem_entries_iff.mp (Document.mem_of_get? found))
  obtain ⟨document, isMember⟩ := exists_member_of_jsonMembers read among
  obtain ⟨member, original, same⟩ := List.mem_map.mp isMember
  cases same
  exact ⟨member.2, original⟩

/-- Of a manifest that was read the metadata are not among the other members as well. -/
theorem WasRead.rest_lacks_metadata {manifest : Manifest} (wasRead : manifest.WasRead) :
    (Json.obj manifest.rest).get? "metadata" = none := by
  obtain ⟨medium, document, read⟩ := wasRead
  obtain ⟨⟨metadata, others⟩, opened, afterOpened⟩ := bind_eq_ok_iff.mp read
  obtain ⟨rest, kept, isManifest⟩ := bind_eq_ok_iff.mp afterOpened
  cases isManifest
  by_contra hasMetadata
  obtain ⟨part, found⟩ := Option.ne_none_iff_exists'.mp hasMetadata
  obtain ⟨value, among⟩ := exists_member_of_keepMembers kept found
  have isOther := TypeMeta.mem_of_mem_takeFrom among
  obtain ⟨members, ending, rfl⟩ := Record.exists_members_of_openRecord opened
  obtain ⟨_, _, rfl⟩ := Record.openRecord_eq_ok_iff.mp opened
  exact (Record.mem_otherMembers.mp isOther).2 (by simp [record])

/-- The metadata of a manifest that was written are found where they belong. -/
theorem fieldIs_metadata {manifest : Manifest} {entries : List (String × Json)}
    (lacks : (Json.obj manifest.rest).get? "metadata" = none)
    (encoded : manifest.encode = .obj entries) :
    FieldIs ObjectMeta.decode {} entries "metadata" manifest.metadata := by
  have found : (Json.obj entries).get? "metadata" = some manifest.metadata.encode := by
    rw [← encoded, get?_encode, lacks]
    rfl
  exact (fieldIs_of_found found).mpr (ObjectMeta.recovers_decode.ofJson manifest.metadata)

/-- The object is read alike wherever it lives, and if it cannot be read it fails alike. -/
theorem WasRead.deployment_livingIn {manifest : Manifest} (wasRead : manifest.WasRead)
    (home : Option String) :
    (manifest.livingIn home).deployment = Deployment.livingIn home <$> manifest.deployment := by
  obtain ⟨entries, encoded⟩ : ∃ entries, manifest.encode = .obj entries := ⟨_, rfl⟩
  obtain ⟨others, moved⟩ : ∃ others, (manifest.livingIn home).encode = .obj others := ⟨_, rfl⟩
  have same : ∀ name, name ≠ "metadata" →
      ((Json.obj entries).get? name).map Document.ofJson =
        ((Json.obj others).get? name).map .ofJson := by
    intro name other
    rw [← encoded, ← moved, get?_encode, get?_encode, if_neg other, if_neg other]
    rfl
  have lacks := wasRead.rest_lacks_metadata
  have movedLacks : (Json.obj (manifest.livingIn home).rest).get? "metadata" = none := lacks
  have isMetadata := fieldIs_metadata lacks encoded
  have isMoved := fieldIs_metadata movedLacks moved
  have unmoved := Deployment.ofJson_decode_eq_withMetadata (fun _ _ => rfl) isMetadata isMetadata
  rw [deployment, deployment, encoded, moved,
    Deployment.ofJson_decode_eq_withMetadata same isMetadata isMoved]
  cases read : Decode.ofJson Deployment.decode (.obj entries) with
  | error failure => rfl
  | ok deployment =>
      rw [read] at unmoved
      have own : deployment = deployment.withMetadata manifest.metadata := Except.ok.inj unmoved
      rw [own]
      rfl

end Manifest

end AvailabilityGate
