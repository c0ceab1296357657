import AvailabilityGate.Pod.Containers

/-!
Owns the shapes of what a pod asks of the cluster and of its node: where it may be placed, how its
network is set up and what else it brings along.
-/

namespace AvailabilityGate.Pod

/-! ### Affinity -/

def nodeRequirement : Shape :=
  .record "NodeSelectorRequirement"
    [("key", .text), ("operator", .text), ("values", .list .text)]

def nodeTerm : Shape :=
  .record "NodeSelectorTerm"
    [("matchExpressions", .list nodeRequirement), ("matchFields", .list nodeRequirement)]

/-- What is preferred and what is required of a place when a pod is scheduled. -/
def scheduling (title : String) (preferred required : Shape) : Shape :=
  .record title
    [("preferredDuringSchedulingIgnoredDuringExecution", .list preferred),
      ("requiredDuringSchedulingIgnoredDuringExecution", required)]

def nodeAffinity : Shape :=
  scheduling "NodeAffinity"
    (.record "PreferredSchedulingTerm" [("preference", nodeTerm), ("weight", .int32)])
    (.record "NodeSelector" [("nodeSelectorTerms", .list nodeTerm)])

def podTerm : Shape :=
  .record "PodAffinityTerm"
    [("labelSelector", .selector), ("matchLabelKeys", .list .text),
      ("mismatchLabelKeys", .list .text), ("namespaceSelector", .selector),
      ("namespaces", .list .text), ("topologyKey", .text)]

/-- Pods that another one should stand beside, or apart from. -/
def podAffinity (title : String) : Shape :=
  scheduling title
    (.record "WeightedPodAffinityTerm" [("podAffinityTerm", podTerm), ("weight", .int32)])
    (.list podTerm)

def affinity : Shape :=
  .record "Affinity"
    [("nodeAffinity", nodeAffinity), ("podAffinity", podAffinity "PodAffinity"),
      ("podAntiAffinity", podAffinity "PodAntiAffinity")]

def toleration : Shape :=
  .record "Toleration"
    [("effect", .text), ("key", .text), ("operator", .text), ("tolerationSeconds", .int64),
      ("value", .text)]

def spread : Shape :=
  .record "TopologySpreadConstraint"
    [("labelSelector", .selector), ("matchLabelKeys", .list .text), ("maxSkew", .int32),
      ("minDomains", .int32), ("nodeAffinityPolicy", .text), ("nodeTaintsPolicy", .text),
      ("topologyKey", .text), ("whenUnsatisfiable", .text)]

/-! ### Pods -/

def nameService : Shape :=
  .record "PodDNSConfig"
    [("nameservers", .list .text),
      ("options", .list (.record "PodDNSConfigOption" [("name", .text), ("value", .text)])),
      ("searches", .list .text)]

def hostAlias : Shape :=
  .record "HostAlias" [("hostnames", .list .text), ("ip", .text)]

def resourceClaim : Shape :=
  .record "PodResourceClaim"
    [("name", .text), ("resourceClaimName", .text), ("resourceClaimTemplateName", .text)]

/-- The fields of a pod, its containers and its resources aside. -/
def podFields : List (String × Shape) :=
  [("activeDeadlineSeconds", .int64), ("affinity", affinity),
    ("automountServiceAccountToken", .bool), ("dnsConfig", nameService), ("dnsPolicy", .text),
    ("enableServiceLinks", .bool), ("hostAliases", .list hostAlias), ("hostIPC", .bool),
    ("hostNetwork", .bool), ("hostPID", .bool), ("hostUsers", .bool), ("hostname", .text),
    ("imagePullSecrets", .list localReference), ("nodeName", .text),
    ("nodeSelector", .table .text), ("os", .record "PodOS" [("name", .text)]),
    ("overhead", .table .text), ("preemptionPolicy", .text), ("priority", .int32),
    ("priorityClassName", .text),
    ("readinessGates", .list (.record "PodReadinessGate" [("conditionType", .text)])),
    ("resourceClaims", .list resourceClaim), ("restartPolicy", .text), ("runtimeClassName", .text),
    ("schedulerName", .text),
    ("schedulingGates", .list (.record "PodSchedulingGate" [("name", .text)])),
    ("securityContext", podSecurity), ("serviceAccount", .text), ("serviceAccountName", .text),
    ("setHostnameAsFQDN", .bool), ("shareProcessNamespace", .bool), ("subdomain", .text),
    ("terminationGracePeriodSeconds", .int64), ("tolerations", .list toleration),
    ("topologySpreadConstraints", .list spread), ("volumes", .list volume)]

end AvailabilityGate.Pod
