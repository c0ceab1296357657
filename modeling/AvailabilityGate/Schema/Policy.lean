import AvailabilityGate.Schema.Basic

/-!
Owns the definition of the policy type that is installed in a cluster: its names, the columns in
which it is listed, and the schema of its objects.
-/

namespace AvailabilityGate.Schema

/-- Notes that are a description and nothing else. -/
def described (description : String) : SchemaNotes :=
  { description := some description }

/-- Notes on a part that may be null. -/
def optionalPart (description : String) : SchemaNotes :=
  { description := some description, nullable := true }

def requirement : Schema :=
  .record
    (described ("A label selector requirement is a selector that contains values, a key, and " ++
      "an operator that relates the key and values."))
    [("key", .text (described "key is the label key that the selector applies to.")),
      ("operator", .text (described ("operator represents a key's relationship to a set of " ++
        "values. Valid operators are In, NotIn, Exists and DoesNotExist."))),
      ("values", .list (described ("values is an array of string values. If the operator is In " ++
        "or NotIn, the values array must be non-empty. If the operator is Exists or " ++
        "DoesNotExist, the values array must be empty. This array is replaced during a " ++
        "strategic merge patch.")) (.text {}))]
    ["key", "operator"]

def selector : Schema :=
  .record (optionalPart "Label selector for the Deployments governed by this policy.")
    [("matchExpressions", .list (described ("matchExpressions is a list of label selector " ++
        "requirements. The requirements are ANDed.")) requirement),
      ("matchLabels", .table (described ("matchLabels is a map of \x7bkey,value\x7d pairs. A " ++
        "single \x7bkey,value\x7d in the matchLabels map is equivalent to an element of " ++
        "matchExpressions, whose key field is \"key\", the operator is \"In\", and the values " ++
        "array contains only \"value\". The requirements are ANDed.")) (.text {}))]
    []

def replicas : Schema :=
  .record (optionalPart "Replica count constraints.")
    [("minimum", .int32 (described "Minimum number of replicas a Deployment must request."))]
    ["minimum"]

def rollingUpdate : Schema :=
  .record
    (optionalPart
      "Bounds for the rolling update parameters. Only consulted when `type` is `RollingUpdate`.")
    [("maxSurge", .intOrText (optionalPart "Upper bound for the Deployment's `maxSurge`.")),
      ("maxUnavailable",
        .intOrText (optionalPart "Upper bound for the Deployment's `maxUnavailable`.")),
      ("minSurge", .intOrText (optionalPart "Lower bound for the Deployment's `maxSurge`."))]
    []

def strategy : Schema :=
  .record (optionalPart "Deployment strategy constraints.")
    [("rollingUpdate", rollingUpdate),
      ("type", .text (described "Required strategy type (`RollingUpdate` or `Recreate`)."))]
    ["type"]

/-- Flags by the name of a resource; none unless given. -/
def resourceFlags (description : String) : Schema :=
  .table { description := some description, substitute := some (.obj []) } (.bool {})

def resources : Schema :=
  .record (optionalPart "Resources every container must declare.")
    [("limits", resourceFlags "Resource names that must be set in `resources.limits`."),
      ("requests", resourceFlags "Resource names that must be set in `resources.requests`.")]
    []

def weight : Schema :=
  .int32 {
    description := some ("Priority of this policy. When several policies select the same " ++
      "Deployment, the one with the highest weight is used.")
    substitute := some (.int 0) }

/-- What a policy is for, with an example. -/
def policyText : String :=
  "HighAvailabilityPolicy enforces availability configuration for Deployments.\n\n" ++
    "Example: ```yaml apiVersion: barbossa.sphc.io/v1alpha1 kind: HighAvailabilityPolicy " ++
    "metadata: name: web-tier spec: weight: 10 selector: matchLabels: tier: web replicas: " ++
    "minimum: 3 strategy: type: RollingUpdate rollingUpdate: minSurge: 25% maxSurge: 75% " ++
    "maxUnavailable: 0 resources: requests: cpu: true limits: memory: true ```"

/-- The schema of what a policy asks for. -/
def policySpec : Schema :=
  .record (described policyText)
    [("replicas", replicas), ("resources", resources), ("selector", selector),
      ("strategy", strategy), ("weight", weight)]
    []

/-- The schema of a policy. -/
def policy : Schema :=
  .record
    { description := some
        "Auto-generated derived type for HighAvailabilityPolicySpec via `CustomResource`"
      title := some "HighAvailabilityPolicy" }
    [("spec", policySpec)]
    ["spec"]

/-- A column of a listing. -/
def column (name type path : String) : Json :=
  .obj [("jsonPath", .str path), ("name", .str name), ("type", .str type)]

def columns : List Json :=
  [column "Weight" "integer" ".spec.weight",
    column "MinReplicas" "integer" ".spec.replicas.minimum",
    column "Strategy" "string" ".spec.strategy.type",
    column "Age" "date" ".metadata.creationTimestamp"]

def names : Json :=
  .obj [
    ("categories", .arr []),
    ("kind", .str "HighAvailabilityPolicy"),
    ("plural", .str "highavailabilitypolicies"),
    ("shortNames", .arr [.str "hap"]),
    ("singular", .str "highavailabilitypolicy")]

/-- The one version of the type. -/
def version : Json :=
  .obj [
    ("additionalPrinterColumns", .arr columns),
    ("name", .str "v1alpha1"),
    ("schema", .obj [("openAPIV3Schema", policy.encode)]),
    ("served", .bool true),
    ("storage", .bool true),
    ("subresources", .obj [])]

/-- The definition of the policy type. -/
def definition : Json :=
  .obj [
    ("apiVersion", .str "apiextensions.k8s.io/v1"),
    ("kind", .str "CustomResourceDefinition"),
    ("metadata", .obj [("name", .str "highavailabilitypolicies.barbossa.sphc.io")]),
    ("spec", .obj [
      ("group", .str "barbossa.sphc.io"),
      ("names", names),
      ("scope", .str "Namespaced"),
      ("versions", .arr [version])])]

end AvailabilityGate.Schema
