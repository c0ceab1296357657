import AvailabilityGate.Admission.Request
import AvailabilityGate.Gateway.Config
import AvailabilityGate.Gateway.Verdict
import AvailabilityGate.Listing.Endpoint
import AvailabilityGate.Rule.Validation

/-!
Owns the admission decision. A request is let pass if its namespace is ignored; else its object
has to be a Deployment with a namespace, whose policies are listed, and of these the governing one
is asked for violations. The first failure on this way denies the request, and a Deployment that
no policy governs is admitted.
-/

namespace AvailabilityGate

/-- Lists the policies of a namespace, in an order that stays the same. -/
abbrev PolicySource := String → Except GatewayFault (List Policy)

namespace PolicySource

/-- The policies of a fixed list that live in the namespace. -/
def fixed (policies : List Policy) : PolicySource := fun home =>
  .ok (policies.filter fun policy => policy.metadata.home = some home)

/-- The policies of the cluster, given how it answers a request. -/
def cluster (ask : Http.Uri → Listing.Answer) : PolicySource := fun home =>
  (Listing.list ask home).mapError .listing

/-- A source that cannot be reached. -/
def failing (fault : GatewayFault) : PolicySource := fun _ =>
  .error fault

end PolicySource

structure Gateway where
  config : GatewayConfig
  source : PolicySource

/-- A verdict, and what was logged on the way to it. -/
structure Decision where
  verdict : Verdict
  log : List LogEvent := []
deriving DecidableEq, Repr

namespace Gateway

/-- The Deployment in a request. -/
def deployment? (object : Option Manifest) : Except GatewayFault Deployment :=
  match object with
  | none => .error (.undecodable "missing object in request")
  | some manifest => manifest.deployment.mapError fun failure => .undecodable failure.message

/-- The namespace of a Deployment: its own, or else the one of the request. -/
def homeOf (deployment : Deployment) (request : Admission.Request) : Option String :=
  deployment.metadata.home.orElse fun _ => request.home

/-- A denial for a fault that is logged under a message. -/
def deny (level : LogLevel) (message : String) (fields : List (String × String))
    (fault : GatewayFault) : Decision where
  verdict := .ofFault fault
  log := [⟨level, message, fields ++ [("error", fault.message)]⟩]

/-- The decision on a Deployment that lives in a namespace with the given policies. -/
def judge
    (unset : UnsetSelector)
    (uid home : String)
    (deployment : Deployment)
    (policies : List Policy) :
    Decision :=
  let about := [("uid", uid), ("namespace", home), ("name", deployment.displayName)]
  match Policy.resolve unset deployment.labels policies with
  | .error fault => deny .error "Failed to resolve policy" about (.unresolved fault)
  | .ok none => ⟨.allow, [⟨.debug, "No governing policy", about⟩]⟩
  | .ok (some policy) =>
      let report := policy.spec.validate deployment
      { verdict := .ofViolations report.violations
        log := ⟨.info, "Validating Deployment", about ++ [("policy", policy.displayName)]⟩ ::
          report.log }

/-- The decision on a Deployment. -/
def reviewDeployment (gateway : Gateway) (request : Admission.Request)
    (deployment : Deployment) : Decision :=
  match homeOf deployment request with
  | none => ⟨.ofFault (.undecodable "missing namespace"), []⟩
  | some home =>
      match gateway.source home with
      | .error fault =>
          deny .error "Failed to list policies" [("uid", request.uid), ("namespace", home)] fault
      | .ok policies =>
          judge gateway.config.unsetSelector request.uid home deployment policies

def review (gateway : Gateway) (request : Admission.Request) : Decision :=
  if gateway.config.ignores request.home then
    { verdict := .allow
      log := [⟨.debug, "Namespace ignored",
        [("uid", request.uid), ("namespace", Text.quotedOption request.home)]⟩] }
  else
    match deployment? request.object with
    | .error fault => deny .warn "Failed to decode Deployment" [("uid", request.uid)] fault
    | .ok deployment => gateway.reviewDeployment request deployment

end Gateway

end AvailabilityGate
