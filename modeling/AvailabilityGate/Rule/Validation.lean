import AvailabilityGate.Rule.Replicas
import AvailabilityGate.Rule.Resources
import AvailabilityGate.Rule.Strategy

/-!
Owns the validation of a Deployment against a policy: the replica rule, the strategy rule and the
resource rule, in this order. A rule that the policy leaves out finds nothing.
-/

namespace AvailabilityGate.PolicySpec

def checkReplicas (spec : PolicySpec) (deployment : Deployment) (report : Report) : Report :=
  match spec.replicas with
  | none => report
  | some rule => rule.check deployment report

def checkStrategy (spec : PolicySpec) (deployment : Deployment) (report : Report) : Report :=
  match spec.strategy with
  | none => report
  | some rule => rule.check deployment report

def checkResources (spec : PolicySpec) (deployment : Deployment) (report : Report) : Report :=
  match spec.resources with
  | none => report
  | some rule => rule.check deployment report

/-- Everything that a policy finds wrong with a Deployment. -/
def validate (spec : PolicySpec) (deployment : Deployment) : Report :=
  spec.checkResources deployment
    (spec.checkStrategy deployment (spec.checkReplicas deployment {}))

end AvailabilityGate.PolicySpec
