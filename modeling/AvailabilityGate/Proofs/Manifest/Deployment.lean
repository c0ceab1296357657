import AvailabilityGate.Proofs.Decode.Shape
import AvailabilityGate.Proofs.Gateway.Decision
import AvailabilityGate.Proofs.Manifest.Detour

/-!
Owns which values are Deployments. Most of a Deployment is looked at and dropped, so that what is
decoded says little about what is refused: here the whole type is written out, with the parts that
are kept among those that are not.

Main statements: a value is decoded as a Deployment exactly if each part of it that has a type is of
that type, or null where it may be; an object with any part of a wrong type is denied.
-/

namespace AvailabilityGate

open Decode Shape

/-! ### Containers and pods -/

def ResourceRequirements.shape : Shape :=
  .record "ResourceRequirements"
    [("limits", .table .text), ("requests", .table .text), ("claims", Pod.resourceClaims)]

def Container.shape : Shape :=
  .record "Container" (("name", .text) :: ("resources", ResourceRequirements.shape) ::
    Pod.containerFields)

def Container.ephemeralShape : Shape :=
  .record "EphemeralContainer" (("resources", ResourceRequirements.shape) :: ("name", .text) ::
    ("targetContainerName", .text) :: Pod.containerFields)

def PodSpec.shape : Shape :=
  .record "PodSpec" (("containers", .list Container.shape) ::
    ("ephemeralContainers", .list Container.ephemeralShape) ::
    ("initContainers", .list Container.shape) :: ("resources", ResourceRequirements.shape) ::
    Pod.podFields)

def PodTemplate.shape : Shape :=
  .record "PodTemplateSpec" [("metadata", .metadata), ("spec", PodSpec.shape)]

theorem ResourceRequirements.accepts_loose : Accepts record.loose shape.Fits :=
  Shape.accepts_ofFields
    (.cons (reads_optional accepts_text.table) <| .cons (reads_optional accepts_text.table) <|
      reads_unkept _) _ _

theorem Container.accepts_loose : Accepts record.loose shape.Fits :=
  Shape.accepts_ofFields
    (.cons (reads_optional accepts_text) <|
      .cons (reads_optional ResourceRequirements.accepts_loose) <| reads_unkept _) _ _

theorem Container.accepts_ephemeral : Accepts ephemeralRecord.loose ephemeralShape.Fits :=
  Shape.accepts_ofFields
    (.cons (reads_seen ResourceRequirements.accepts_loose) <| reads_unkept _) _ _

theorem PodSpec.accepts_loose : Accepts record.loose shape.Fits :=
  Shape.accepts_ofFields
    (.cons (reads_optional Container.accepts_loose.list) <|
      .cons (reads_seen Container.accepts_ephemeral.list) <|
      .cons (reads_seen Container.accepts_loose.list) <|
      .cons (reads_seen ResourceRequirements.accepts_loose) <| reads_unkept _) _ _

theorem PodTemplate.accepts_loose : Accepts record.loose shape.Fits :=
  Shape.accepts_ofFields
    (.cons (reads_seen ObjectMeta.accepts_decode) <| .cons (reads_optional PodSpec.accepts_loose)
      .nil) _ _

/-! ### Deployments -/

def RollingUpdate.shape : Shape :=
  .record "RollingUpdateDeployment" [("maxSurge", .bound), ("maxUnavailable", .bound)]

def DeploymentStrategy.shape : Shape :=
  .record "DeploymentStrategy" [("rollingUpdate", RollingUpdate.shape), ("type", .text)]

def DeploymentSpec.shape : Shape :=
  .record "DeploymentSpec"
    [("replicas", .int32), ("strategy", DeploymentStrategy.shape), ("template", PodTemplate.shape),
      ("minReadySeconds", .int32), ("paused", .bool), ("progressDeadlineSeconds", .int32),
      ("revisionHistoryLimit", .int32), ("selector", .selector)]

theorem RollingUpdate.accepts_loose : Accepts record.loose shape.Fits :=
  Shape.accepts_ofFields
    (.cons (reads_optional accepts_bound) <| .cons (reads_optional accepts_bound)
      .nil) _ _

theorem DeploymentStrategy.accepts_loose : Accepts record.loose shape.Fits :=
  Shape.accepts_ofFields
    (.cons (reads_optional RollingUpdate.accepts_loose) <| .cons (reads_optional accepts_text)
      .nil) _ _

theorem DeploymentSpec.accepts_loose : Accepts record.loose shape.Fits :=
  Shape.accepts_ofFields
    (.cons (reads_optional accepts_int32) <|
      .cons (reads_optional DeploymentStrategy.accepts_loose) <|
      .cons (reads_optional PodTemplate.accepts_loose) <| reads_unkept _) _ _

namespace Deployment

/-- What may stand under the names of a Deployment; its type has to be there as it is, or not at
all. -/
def typed : List (String × (Json → Prop)) :=
  ("apiVersion", (· = .str "apps/v1")) :: ("kind", (· = .str "Deployment")) ::
    Shape.typed [("metadata", .metadata), ("spec", DeploymentSpec.shape), ("status", status)]

theorem accepts_literal (expected : String) : Accepts (literal expected) (· = .str expected) := by
  intro value medium document spells
  cases spells with
  | str written =>
      by_cases same : written = expected
      · simp [Decodes, literal, Decode.text, same, bind, Except.bind, pure, Except.pure]
      · simp [Decodes, literal, Decode.text, same, bind, Except.bind]
  | _ => simp [Decodes, literal, Decode.text, bind, Except.bind, mismatch, fail, found]

theorem reads_typeField (name expected : String) :
    Reads (typeField name expected) (name, (· = .str expected)) where
  name_eq := rfl
  accepts := accepts_literal expected

/-- The value is read as a Deployment. -/
def Fits : Json → Prop :=
  EachMember (FitsNamed typed)

theorem accepts_decode : Accepts decode Fits :=
  Decode.accepts_ofFields
    (.cons (reads_typeField _ _) <| .cons (reads_typeField _ _) <|
      .cons (reads_optional ObjectMeta.accepts_decode) <|
      .cons (reads_optional DeploymentSpec.accepts_loose) <|
      .cons (reads_seen (accepts_look status)) .nil) _ _

/-- No policy looks at images, and still they have to be texts. -/
example :
    ofJson decode (.obj [("spec", .obj [("template", .obj [("spec", .obj [
      ("containers", .arr [.obj [("image", .int 42)]])])])])]) =
      .error {
        cause := .wrongType (.int 42) "a string"
        path := [.member "spec", .member "template", .member "spec", .member "containers",
          .item 0, .member "image"] } := by
  rfl

end Deployment

/-! ### What becomes of other objects -/

variable {entries : List (String × Json)} {manifest : Manifest}

theorem Manifest.TakenFrom.succeeds_iff (takenFrom : TakenFrom entries manifest) :
    (∃ deployment, manifest.deployment = .ok deployment) ↔ Deployment.Fits (.obj entries) := by
  rw [takenFrom.deployment_eq]
  exact Deployment.accepts_decode _ (Document.spells_ofJson _)

/-- No part of a wrong type is overlooked for being of no use to a policy. -/
theorem Gateway.status_of_misfit {gateway : Gateway} {request : Admission.Request}
    (takenFrom : Manifest.TakenFrom entries manifest) (object : request.object = some manifest)
    (watched : ¬ Ignored gateway request) (misfit : ¬ Deployment.Fits (.obj entries)) :
    (gateway.review request).verdict.status = some (400, "BadRequest") := by
  cases decoded : manifest.deployment with
  | ok deployment => exact absurd (takenFrom.succeeds_iff.mp ⟨deployment, decoded⟩) misfit
  | error failure =>
      have fails : deployment? request.object = .error (.undecodable failure.message) := by
        rw [object, deployment?, decoded]
        rfl
      rw [review_of_undecoded watched fails]
      rfl

end AvailabilityGate
