import AvailabilityGate.Deployment
import AvailabilityGate.Policy.Basic
import AvailabilityGate.Rule.Report

/-!
Owns the resource rule: every container declares each request and each limit that the policy flags
with `true`.
-/

namespace AvailabilityGate.ResourcesRule

def containersField : FieldPath :=
  ((FieldPath.spec.child "template").child "spec").child "containers"

def containerField (container : Container) : FieldPath :=
  (containersField.child container.name).child "resources"

/-- Reports each flagged name that is not declared, by ascending name. -/
def checkDeclared
    (flags : Table Bool)
    (declared : Option (Table String))
    (path : FieldPath)
    (report : Report) :
    Report :=
  flags.entries.foldl (fun report flag =>
    if flag.2 && !declared.any (fun table => table.contains flag.1) then
      report.add (.required (path.child flag.1))
    else report) report

def checkContainer (rule : ResourcesRule) (report : Report) (container : Container) : Report :=
  let path := containerField container
  checkDeclared rule.limits (container.resources.bind ResourceRequirements.limits)
    (path.child "limits")
    (checkDeclared rule.requests (container.resources.bind ResourceRequirements.requests)
      (path.child "requests") report)

def check (rule : ResourcesRule) (deployment : Deployment) (report : Report) : Report :=
  deployment.containers.foldl rule.checkContainer report

end AvailabilityGate.ResourcesRule
