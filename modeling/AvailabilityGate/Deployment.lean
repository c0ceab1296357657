import AvailabilityGate.Pod.Placement

/-!
Owns Deployments and their decoding. Kept is what availability policies look at. Everything else
that a Deployment has a type for is decoded as well, since a wrong type there is a failure too, and
then dropped; only members of other names are passed over.
-/

namespace AvailabilityGate

open Decode

/-- Bounds of a rolling update. -/
structure RollingUpdate where
  maxSurge : Option Bound := none
  maxUnavailable : Option Bound := none
deriving DecidableEq

structure DeploymentStrategy where
  type : Option String := none
  rollingUpdate : Option RollingUpdate := none
deriving DecidableEq

/-- Quantities by resource name. -/
structure ResourceRequirements where
  requests : Option (Table String) := none
  limits : Option (Table String) := none
deriving DecidableEq

structure Container where
  name : String := ""
  resources : Option ResourceRequirements := none
deriving DecidableEq

structure PodSpec where
  containers : List Container := []
deriving DecidableEq

structure PodTemplate where
  spec : Option PodSpec := none
deriving DecidableEq

structure DeploymentSpec where
  replicas : Option Int32 := none
  strategy : Option DeploymentStrategy := none
  template : PodTemplate := {}
deriving DecidableEq

structure Deployment where
  metadata : ObjectMeta := {}
  spec : Option DeploymentSpec := none
deriving DecidableEq

/-! ### Containers -/

def ResourceRequirements.record : Record ResourceRequirements :=
  .ofFields "ResourceRequirements"
    (.optional "limits" (table text) (fun limits resources => { resources with limits }) ::
      .optional "requests" (table text) (fun requests resources => { resources with requests }) ::
      Shape.unkept [("claims", Pod.resourceClaims)])
    {}

def Container.record : Record Container :=
  .ofFields "Container"
    (.optional "name" text (fun name container => { container with name := name.getD "" }) ::
      .optional "resources" ResourceRequirements.record.loose
        (fun resources container => { container with resources }) ::
      Shape.unkept Pod.containerFields)
    {}

/-- A container that is added to a running pod; nothing of it is kept. -/
def Container.ephemeralRecord : Record Unit :=
  .ofFields "EphemeralContainer"
    (.seen "resources" ResourceRequirements.record.loose ::
      Shape.unkept (("name", .text) :: ("targetContainerName", .text) :: Pod.containerFields))
    ()

/-! ### Pods -/

def PodSpec.record : Record PodSpec :=
  .ofFields "PodSpec"
    (.optional "containers" (list Container.record.loose)
        (fun containers _ => { containers := containers.getD [] }) ::
      .seen "ephemeralContainers" (list Container.ephemeralRecord.loose) ::
      .seen "initContainers" (list Container.record.loose) ::
      .seen "resources" ResourceRequirements.record.loose ::
      Shape.unkept Pod.podFields)
    {}

def PodTemplate.record : Record PodTemplate :=
  .ofFields "PodTemplateSpec"
    [.seen "metadata" ObjectMeta.decode,
      .optional "spec" PodSpec.record.loose fun spec _ => { spec }]
    {}

/-! ### Deployments -/

def RollingUpdate.record : Record RollingUpdate :=
  .ofFields "RollingUpdateDeployment"
    [.optional "maxSurge" Bound.decode fun maxSurge bounds => { bounds with maxSurge },
      .optional "maxUnavailable" Bound.decode fun maxUnavailable bounds =>
        { bounds with maxUnavailable }]
    {}

def DeploymentStrategy.record : Record DeploymentStrategy :=
  .ofFields "DeploymentStrategy"
    [.optional "rollingUpdate" RollingUpdate.record.loose fun rollingUpdate strategy =>
        { strategy with rollingUpdate },
      .optional "type" text fun type strategy => { strategy with type }]
    {}

def DeploymentSpec.record : Record DeploymentSpec :=
  .ofFields "DeploymentSpec"
    (.optional "replicas" int32 (fun replicas spec => { spec with replicas }) ::
      .optional "strategy" DeploymentStrategy.record.loose
        (fun strategy spec => { spec with strategy }) ::
      .optional "template" PodTemplate.record.loose
        (fun template spec => { spec with template := template.getD {} }) ::
      Shape.unkept [("minReadySeconds", .int32), ("paused", .bool),
        ("progressDeadlineSeconds", .int32), ("revisionHistoryLimit", .int32),
        ("selector", .selector)])
    {}

namespace Deployment

def condition : Shape :=
  .record "DeploymentCondition"
    [("lastTransitionTime", .time), ("lastUpdateTime", .time), ("message", .text),
      ("reason", .text), ("status", .text), ("type", .text)]

/-- What a Deployment reports about itself. -/
def status : Shape :=
  .record "DeploymentStatus"
    [("availableReplicas", .int32), ("collisionCount", .int32), ("conditions", .list condition),
      ("observedGeneration", .int64), ("readyReplicas", .int32), ("replicas", .int32),
      ("terminatingReplicas", .int32), ("unavailableReplicas", .int32),
      ("updatedReplicas", .int32)]

/-- A text that has to be one given word. -/
def literal (expected : String) : Decoder Unit := fun medium document => do
  let written ← text medium document
  if written = expected then return ()
  else fail (.wrongValue (.str written) expected)

/-- The name of a part of the type, which has to be there as it is. -/
def typeField (name expected : String) : RecordField Deployment where
  name
  read := literal expected
  store _ deployment := deployment

def record : Record Deployment :=
  .ofFields "Deployment"
    [typeField "apiVersion" "apps/v1", typeField "kind" "Deployment",
      .optional "metadata" ObjectMeta.decode fun metadata deployment =>
        { deployment with metadata := metadata.getD {} },
      .optional "spec" DeploymentSpec.record.loose fun spec deployment =>
        { deployment with spec },
      .seen "status" status.look]
    {}

def decode : Decoder Deployment :=
  record.loose

/-- The replicas asked for, if the Deployment says so. -/
def replicas (deployment : Deployment) : Option Int32 :=
  deployment.spec.bind DeploymentSpec.replicas

def strategy (deployment : Deployment) : Option DeploymentStrategy :=
  deployment.spec.bind DeploymentSpec.strategy

def containers (deployment : Deployment) : List Container :=
  ((deployment.spec.bind fun spec => spec.template.spec).map PodSpec.containers).getD []

def labels (deployment : Deployment) : Table String :=
  deployment.metadata.labelTable

def displayName (deployment : Deployment) : String :=
  deployment.metadata.displayName

end Deployment

end AvailabilityGate
