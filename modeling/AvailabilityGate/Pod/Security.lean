import AvailabilityGate.Shape

/-!
Owns the shapes of the settings that keep a pod and its containers apart from the rest of a node.
-/

namespace AvailabilityGate.Pod

def appArmorProfile : Shape :=
  .record "AppArmorProfile" [("localhostProfile", .text), ("type", .text)]

def seccompProfile : Shape :=
  .record "SeccompProfile" [("localhostProfile", .text), ("type", .text)]

def seLinuxOptions : Shape :=
  .record "SELinuxOptions" [("level", .text), ("role", .text), ("type", .text), ("user", .text)]

def windowsOptions : Shape :=
  .record "WindowsSecurityContextOptions"
    [("gmsaCredentialSpec", .text), ("gmsaCredentialSpecName", .text), ("hostProcess", .bool),
      ("runAsUserName", .text)]

/-- The settings that a pod and a container have in common. -/
def sharedSecurity : List (String × Shape) :=
  [("appArmorProfile", appArmorProfile), ("runAsGroup", .int64), ("runAsNonRoot", .bool),
    ("runAsUser", .int64), ("seLinuxOptions", seLinuxOptions), ("seccompProfile", seccompProfile),
    ("windowsOptions", windowsOptions)]

def containerSecurity : Shape :=
  .record "SecurityContext" (sharedSecurity ++
    [("allowPrivilegeEscalation", .bool),
      ("capabilities", .record "Capabilities" [("add", .list .text), ("drop", .list .text)]),
      ("privileged", .bool), ("procMount", .text), ("readOnlyRootFilesystem", .bool)])

def podSecurity : Shape :=
  .record "PodSecurityContext" (sharedSecurity ++
    [("fsGroup", .int64), ("fsGroupChangePolicy", .text), ("seLinuxChangePolicy", .text),
      ("supplementalGroups", .list .int64), ("supplementalGroupsPolicy", .text),
      ("sysctls", .list (.record "Sysctl" [("name", .text), ("value", .text)]))])

end AvailabilityGate.Pod
