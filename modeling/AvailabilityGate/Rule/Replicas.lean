import AvailabilityGate.Deployment
import AvailabilityGate.Policy.Basic
import AvailabilityGate.Rule.Report

/-!
Owns the replica rule: a Deployment states its replicas, and they are no fewer than the minimum.
-/

namespace AvailabilityGate.ReplicasRule

def field : FieldPath :=
  FieldPath.spec.child "replicas"

def check (rule : ReplicasRule) (deployment : Deployment) (report : Report) : Report :=
  match deployment.replicas with
  | none => report.add (.required field)
  | some replicas =>
      if replicas < rule.minimum then
        report.add (.invalid field (toString replicas.toInt)
          ("should be at least " ++ toString rule.minimum.toInt))
      else report

end AvailabilityGate.ReplicasRule
