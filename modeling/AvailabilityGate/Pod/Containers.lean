import AvailabilityGate.Pod.Security
import AvailabilityGate.Pod.Volumes

/-!
Owns the shapes of what a container is made of, apart from its name and its resources.
-/

namespace AvailabilityGate.Pod

/-! ### The environment -/

/-- A part of a map or of a secret. -/
def keySelector (title : String) : Shape :=
  .record title [("key", .text), ("name", .text), ("optional", .bool)]

def environmentSource : Shape :=
  .record "EnvVarSource"
    [("configMapKeyRef", keySelector "ConfigMapKeySelector"), ("fieldRef", fieldSelector),
      ("resourceFieldRef", resourceFieldSelector),
      ("secretKeyRef", keySelector "SecretKeySelector")]

def environmentEntry : Shape :=
  .record "EnvVar" [("name", .text), ("value", .text), ("valueFrom", environmentSource)]

def environmentList : Shape :=
  .record "EnvFromSource"
    [("configMapRef", .record "ConfigMapEnvSource" [("name", .text), ("optional", .bool)]),
      ("prefix", .text),
      ("secretRef", .record "SecretEnvSource" [("name", .text), ("optional", .bool)])]

/-! ### Probes and handlers -/

def command : Shape :=
  .record "ExecAction" [("command", .list .text)]

def httpGet : Shape :=
  .record "HTTPGetAction"
    [("host", .text),
      ("httpHeaders", .list (.record "HTTPHeader" [("name", .text), ("value", .text)])),
      ("path", .text), ("port", .bound), ("scheme", .text)]

def tcpSocket : Shape :=
  .record "TCPSocketAction" [("host", .text), ("port", .bound)]

def handler : Shape :=
  .record "LifecycleHandler"
    [("exec", command), ("httpGet", httpGet),
      ("sleep", .record "SleepAction" [("seconds", .int64)]), ("tcpSocket", tcpSocket)]

def lifecycle : Shape :=
  .record "Lifecycle" [("postStart", handler), ("preStop", handler), ("stopSignal", .text)]

def probe : Shape :=
  .record "Probe"
    [("exec", command), ("failureThreshold", .int32),
      ("grpc", .record "GRPCAction" [("port", .int32), ("service", .text)]),
      ("httpGet", httpGet), ("initialDelaySeconds", .int32), ("periodSeconds", .int32),
      ("successThreshold", .int32), ("tcpSocket", tcpSocket),
      ("terminationGracePeriodSeconds", .int64), ("timeoutSeconds", .int32)]

/-! ### Containers -/

def port : Shape :=
  .record "ContainerPort"
    [("containerPort", .int32), ("hostIP", .text), ("hostPort", .int32), ("name", .text),
      ("protocol", .text)]

def resizePolicy : Shape :=
  .record "ContainerResizePolicy" [("resourceName", .text), ("restartPolicy", .text)]

def volumeDevice : Shape :=
  .record "VolumeDevice" [("devicePath", .text), ("name", .text)]

def volumeMount : Shape :=
  .record "VolumeMount"
    [("mountPath", .text), ("mountPropagation", .text), ("name", .text), ("readOnly", .bool),
      ("recursiveReadOnly", .text), ("subPath", .text), ("subPathExpr", .text)]

/-- The claims of a container on devices of its pod. -/
def resourceClaims : Shape :=
  .list (.record "ResourceClaim" [("name", .text), ("request", .text)])

/-- The fields of a container, its name and its resources aside. -/
def containerFields : List (String × Shape) :=
  [("args", .list .text), ("command", .list .text), ("env", .list environmentEntry),
    ("envFrom", .list environmentList), ("image", .text), ("imagePullPolicy", .text),
    ("lifecycle", lifecycle), ("livenessProbe", probe), ("ports", .list port),
    ("readinessProbe", probe), ("resizePolicy", .list resizePolicy), ("restartPolicy", .text),
    ("securityContext", containerSecurity), ("startupProbe", probe), ("stdin", .bool),
    ("stdinOnce", .bool), ("terminationMessagePath", .text), ("terminationMessagePolicy", .text),
    ("tty", .bool), ("volumeDevices", .list volumeDevice), ("volumeMounts", .list volumeMount),
    ("workingDir", .text)]

end AvailabilityGate.Pod
