import AvailabilityGate.Bound.Basic
import AvailabilityGate.Label.Selector
import AvailabilityGate.ObjectMeta

/-!
Owns availability policies: what they ask of the Deployments that they govern, how they are read
from JSON, and how they are written back.
-/

namespace AvailabilityGate

/-- The least number of replicas. -/
structure ReplicasRule where
  minimum : Int32
deriving DecidableEq

/-- Limits to the bounds of a rolling update. -/
structure RollingUpdateRule where
  minSurge : Option Bound := none
  maxSurge : Option Bound := none
  maxUnavailable : Option Bound := none
deriving DecidableEq

/-- The update strategy that is asked for. -/
structure StrategyRule where
  type : String
  rollingUpdate : Option RollingUpdateRule := none
deriving DecidableEq

/-- Resources that every container has to declare; one with `false` need not be declared. -/
structure ResourcesRule where
  requests : Table Bool := .empty
  limits : Table Bool := .empty
deriving DecidableEq

structure PolicySpec where
  weight : Int32 := 0
  selector : Option LabelSelector := none
  replicas : Option ReplicasRule := none
  strategy : Option StrategyRule := none
  resources : Option ResourcesRule := none
deriving DecidableEq

structure Policy where
  metadata : ObjectMeta
  spec : PolicySpec
deriving DecidableEq

namespace ReplicasRule

def record : Decode.Record ReplicasRule where
  title := "struct ReplicasPolicy"
  fields := ["minimum"]
  required := ["minimum"]
  empty := ⟨0⟩
  set
    | "minimum", medium, document, _ => do return ⟨← Decode.int32 medium document⟩
    | _, _, _, rule => .ok rule

def encode (rule : ReplicasRule) : Json :=
  .obj [("minimum", .int rule.minimum.toInt)]

end ReplicasRule

namespace RollingUpdateRule

def record : Decode.Record RollingUpdateRule where
  title := "struct RollingUpdatePolicy"
  fields := ["minSurge", "maxSurge", "maxUnavailable"]
  empty := {}
  set
    | "minSurge", medium, document, rule => do
        return { rule with minSurge := ← Decode.optional Bound.decode medium document }
    | "maxSurge", medium, document, rule => do
        return { rule with maxSurge := ← Decode.optional Bound.decode medium document }
    | "maxUnavailable", medium, document, rule => do
        return { rule with maxUnavailable := ← Decode.optional Bound.decode medium document }
    | _, _, _, rule => .ok rule

def encode (rule : RollingUpdateRule) : Json :=
  .obj (Json.optional "maxSurge" Bound.encode rule.maxSurge ++
    Json.optional "maxUnavailable" Bound.encode rule.maxUnavailable ++
    Json.optional "minSurge" Bound.encode rule.minSurge)

end RollingUpdateRule

namespace StrategyRule

def record : Decode.Record StrategyRule where
  title := "struct StrategyPolicy"
  fields := ["type", "rollingUpdate"]
  required := ["type"]
  empty := ⟨"", none⟩
  set
    | "type", medium, document, rule => do
        return { rule with type := ← Decode.text medium document }
    | "rollingUpdate", medium, document, rule => do
        let rollingUpdate ← Decode.optional RollingUpdateRule.record.strict medium document
        return { rule with rollingUpdate }
    | _, _, _, rule => .ok rule

def encode (rule : StrategyRule) : Json :=
  .obj (Json.optional "rollingUpdate" RollingUpdateRule.encode rule.rollingUpdate ++
    [("type", .str rule.type)])

end StrategyRule

namespace ResourcesRule

def record : Decode.Record ResourcesRule where
  title := "struct ResourcesPolicy"
  fields := ["requests", "limits"]
  empty := {}
  set
    | "requests", medium, document, rule => do
        return { rule with requests := ← Decode.table Decode.bool medium document }
    | "limits", medium, document, rule => do
        return { rule with limits := ← Decode.table Decode.bool medium document }
    | _, _, _, rule => .ok rule

def encode (rule : ResourcesRule) : Json :=
  .obj [("limits", Json.ofTable .bool rule.limits), ("requests", Json.ofTable .bool rule.requests)]

end ResourcesRule

namespace PolicySpec

def record : Decode.Record PolicySpec where
  title := "struct HighAvailabilityPolicySpec"
  fields := ["weight", "selector", "replicas", "strategy", "resources"]
  empty := {}
  set
    | "weight", medium, document, spec => do
        return { spec with weight := ← Decode.int32 medium document }
    | "selector", medium, document, spec => do
        return { spec with selector := ← Decode.optional LabelSelector.decode medium document }
    | "replicas", medium, document, spec => do
        let replicas ← Decode.optional ReplicasRule.record.strict medium document
        return { spec with replicas }
    | "strategy", medium, document, spec => do
        let strategy ← Decode.optional StrategyRule.record.strict medium document
        return { spec with strategy }
    | "resources", medium, document, spec => do
        let resources ← Decode.optional ResourcesRule.record.strict medium document
        return { spec with resources }
    | _, _, _, spec => .ok spec

def decode : Decoder PolicySpec :=
  record.strict

def encode (spec : PolicySpec) : Json :=
  .obj (Json.optional "replicas" ReplicasRule.encode spec.replicas ++
    Json.optional "resources" ResourcesRule.encode spec.resources ++
    Json.optional "selector" LabelSelector.encode spec.selector ++
    Json.optional "strategy" StrategyRule.encode spec.strategy ++
    [("weight", .int spec.weight.toInt)])

/-- A policy that asks for nothing. -/
def isUnconstrained (spec : PolicySpec) : Bool :=
  spec.replicas.isNone && spec.strategy.isNone && spec.resources.isNone

end PolicySpec

namespace Policy

def record : Decode.Record Policy where
  title := "struct HighAvailabilityPolicy"
  fields := ["metadata", "spec"]
  required := ["metadata", "spec"]
  empty := ⟨{}, {}⟩
  set
    | "metadata", medium, document, policy => do
        return { policy with metadata := ← ObjectMeta.decode medium document }
    | "spec", medium, document, policy => do
        return { policy with spec := ← PolicySpec.decode medium document }
    | _, _, _, policy => .ok policy

def decode : Decoder Policy :=
  record.strict

def displayName (policy : Policy) : String :=
  policy.metadata.displayName

/-- Namespace and name, as messages refer to the policy. -/
def qualifiedName (policy : Policy) : String :=
  policy.metadata.home.getD "" ++ "/" ++ policy.displayName

end Policy

end AvailabilityGate
