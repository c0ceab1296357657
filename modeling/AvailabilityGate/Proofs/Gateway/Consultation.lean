import AvailabilityGate.Webhook

/-!
Owns the webhook as it asks the policy source. The source is an action of any monad, run where a
review needs the policies of a namespace, so that what a request does to the source can be told from
the program that it gives. A source that has its answers ready gives back the webhook without the
monad: this is no second webhook.

Does not own what is decided.
-/

namespace AvailabilityGate

variable {m : Type → Type} [Monad m]

/-- Asks for the policies of a namespace. -/
abbrev AskedSource (m : Type → Type) := String → m (Except GatewayFault (List Policy))

namespace Gateway

variable (config : GatewayConfig)

def reviewDeploymentIn (source : AskedSource m) (request : Admission.Request)
    (deployment : Deployment) : m Decision :=
  match homeOf deployment request with
  | none => pure ⟨.ofFault (.undecodable "missing namespace"), []⟩
  | some home => do
      match ← source home with
      | .error fault =>
          return deny .error "Failed to list policies"
            [("uid", request.uid), ("namespace", home)] fault
      | .ok policies => return judge config.unsetSelector request.uid home deployment policies

def reviewIn (source : AskedSource m) (request : Admission.Request) : m Decision :=
  if config.ignores request.home then
    pure {
      verdict := .allow
      log := [⟨.debug, "Namespace ignored",
        [("uid", request.uid), ("namespace", Text.quotedOption request.home)]⟩] }
  else
    match deployment? request.object with
    | .error fault => pure (deny .warn "Failed to decode Deployment" [("uid", request.uid)] fault)
    | .ok deployment => reviewDeploymentIn config source request deployment

variable [LawfulMonad m]

theorem reviewDeploymentIn_pure (source : PolicySource) (request : Admission.Request)
    (deployment : Deployment) :
    reviewDeploymentIn (m := m) config (fun home => pure (source home)) request deployment =
      pure (reviewDeployment ⟨config, source⟩ request deployment) := by
  unfold reviewDeploymentIn reviewDeployment
  cases homeOf deployment request with
  | none => rfl
  | some home =>
      simp only [pure_bind]
      cases source home <;> rfl

theorem reviewIn_pure (source : PolicySource) (request : Admission.Request) :
    reviewIn (m := m) config (fun home => pure (source home)) request =
      pure (review ⟨config, source⟩ request) := by
  unfold reviewIn review
  split
  · rfl
  · cases deployment? request.object with
    | error fault => rfl
    | ok deployment => exact reviewDeploymentIn_pure config source request deployment

end Gateway

namespace Webhook

variable (config : GatewayConfig) (seconds : Float) (health : Health)

def answerIn (source : AskedSource m) (request : Admission.Request) : m Outcome := do
  let decision ← Gateway.reviewIn config source request
  return {
    reply := .json 200 (Admission.Response.ofVerdict request decision.verdict).encode
    health := { health with metrics := health.metrics.record decision.verdict seconds }
    log := arrivalEvent request :: decision.log ++ [verdictEvent request decision.verdict] }

def handleIn (source : AskedSource m) (request : Http.Request) : m Outcome :=
  match extract request with
  | .error rejection => pure ⟨rejection.reply, health, rejection.log⟩
  | .ok admission => answerIn config seconds health source admission

theorem handleIn_pure [LawfulMonad m] (source : PolicySource) (request : Http.Request) :
    handleIn (m := m) config seconds health (fun home => pure (source home)) request =
      pure (handle ⟨config, source⟩ seconds health request) := by
  unfold handleIn handle
  cases extract request with
  | error rejection => rfl
  | ok admission =>
      simp only [answerIn, Gateway.reviewIn_pure, pure_bind]
      rfl

end Webhook

end AvailabilityGate
