import AvailabilityGate.Proofs.Gateway.Consultation
import AvailabilityGate.Proofs.Gateway.Decision
import AvailabilityGate.Proofs.Manifest.Home
import AvailabilityGate.Proofs.Rule.Visibility

/-!
Owns the places in which a request can name the namespace of its Deployment: on the request, in the
object, or in both. The policies that are listed are those of this namespace, wherever it is named.
The namespaces that are let pass are looked for on the request alone, before the object is read.

Main statement: it does not matter where a namespace is named, unless it is let pass. Such a
namespace is let pass only if the request names it.
-/

namespace AvailabilityGate

/-- Where the namespace of a Deployment is named. -/
inductive Placement where
  | onRequest
  | onBoth
  | inObject
deriving DecidableEq

namespace Placement

/-- What the request says of the namespace. -/
def requestHome (home : String) : Placement → Option String
  | .onRequest | .onBoth => some home
  | .inObject => none

/-- What the object says of the namespace. -/
def objectHome (home : String) : Placement → Option String
  | .onRequest => none
  | .onBoth | .inObject => some home

theorem lives (home : String) (placement : Placement) :
    (placement.objectHome home).or (placement.requestHome home) = some home := by
  cases placement <;> rfl

end Placement

namespace Gateway

/-- A request with a Deployment whose namespace is still to be named. -/
structure Unplaced where
  request : Admission.Request
  manifest : Manifest
  deployment : Deployment
  wasRead : manifest.WasRead
  decodes : manifest.deployment = .ok deployment

/-- The decision on a request that is let pass. -/
def bypassing (request : Admission.Request) : Decision where
  verdict := .allow
  log := [⟨.debug, "Namespace ignored",
    [("uid", request.uid), ("namespace", Text.quotedOption request.home)]⟩]

/-- Where a Deployment lives is no matter of what its policies find in it. -/
theorem judge_livingIn (unset : UnsetSelector) (uid home : String) (elsewhere : Option String)
    (deployment : Deployment) (policies : List Policy) :
    judge unset uid home (deployment.livingIn elsewhere) policies =
      judge unset uid home deployment policies := by
  have looksLike : (deployment.livingIn elsewhere).LooksLike deployment := ⟨rfl, rfl, rfl⟩
  unfold judge
  simp only [PolicySpec.validate_congr looksLike]
  rfl

namespace Unplaced

/-- The request that names the namespace in this place and in no other. -/
def placed (carried : Unplaced) (home : String) (placement : Placement) : Admission.Request :=
  { carried.request with
    home := placement.requestHome home
    object := some (carried.manifest.livingIn (placement.objectHome home)) }

/-- The decision on the Deployment, by what the source answers for its namespace. -/
def ruling (carried : Unplaced) (unset : UnsetSelector) (home : String) :
    Except GatewayFault (List Policy) → Decision
  | .error fault =>
      deny .error "Failed to list policies"
        [("uid", carried.request.uid), ("namespace", home)] fault
  | .ok policies => judge unset carried.request.uid home carried.deployment policies

variable {carried : Unplaced} {config : GatewayConfig} {home : String}

/-- The bypass sees a namespace that is to be let pass, if the request names it. -/
theorem ignores_placed_iff {placement : Placement} :
    config.ignores (carried.placed home placement).home = true ↔
      home ∈ config.ignored ∧ placement ≠ .inObject := by
  unfold GatewayConfig.ignores placed
  cases placement <;> simp [Placement.requestHome]

theorem deployment?_placed (placement : Placement) :
    deployment? (carried.placed home placement).object =
      .ok (carried.deployment.livingIn (placement.objectHome home)) := by
  apply deployment?_of_decodes rfl
  rw [carried.wasRead.deployment_livingIn, carried.decodes]
  rfl

theorem homeOf_placed (placement : Placement) :
    homeOf (carried.deployment.livingIn (placement.objectHome home))
      (carried.placed home placement) = some home :=
  (homeOf_eq _ _).trans (placement.lives home)

theorem reviewIn_placed_of_ignored {m : Type → Type} [Monad m] (source : AskedSource m)
    {placement : Placement} (ignored : home ∈ config.ignored) (named : placement ≠ .inObject) :
    reviewIn config source (carried.placed home placement) =
      pure (bypassing (carried.placed home placement)) := by
  rw [reviewIn, if_pos (ignores_placed_iff.mpr ⟨ignored, named⟩)]
  rfl

theorem reviewIn_placed_of_watched {m : Type → Type} [Monad m] (source : AskedSource m)
    {placement : Placement} (watched : home ∈ config.ignored → placement = .inObject) :
    reviewIn config source (carried.placed home placement) = do
      return carried.ruling config.unsetSelector home (← source home) := by
  have passedOn : ¬ config.ignores (carried.placed home placement).home = true := by
    rw [ignores_placed_iff]
    exact fun ⟨ignored, named⟩ => named (watched ignored)
  rw [reviewIn, if_neg passedOn, deployment?_placed]
  simp only [reviewDeploymentIn, homeOf_placed]
  congr 1
  funext answer
  cases answer with
  | error fault => rfl
  | ok policies => exact congrArg pure (judge_livingIn ..)

variable {source : PolicySource} {placement : Placement}

theorem review_placed_of_ignored (ignored : home ∈ config.ignored) (named : placement ≠ .inObject) :
    review ⟨config, source⟩ (carried.placed home placement) =
      bypassing (carried.placed home placement) :=
  (reviewIn_pure (m := Id) config source _).symm.trans (reviewIn_placed_of_ignored _ ignored named)

theorem review_placed_of_watched (watched : home ∈ config.ignored → placement = .inObject) :
    review ⟨config, source⟩ (carried.placed home placement) =
      carried.ruling config.unsetSelector home (source home) :=
  (reviewIn_pure (m := Id) config source _).symm.trans (reviewIn_placed_of_watched _ watched)

/-- A namespace counts alike wherever it is named, but for the bypass, which needs the request. -/
structure CountsAlike (carried : Unplaced) (config : GatewayConfig) (home : String) : Prop where
  /-- The object may repeat what the request says. -/
  repeated : ∀ source : PolicySource,
    review ⟨config, source⟩ (carried.placed home .onBoth) =
      review ⟨config, source⟩ (carried.placed home .onRequest)
  /-- A namespace that is not let pass may be named anywhere. -/
  anywhere : home ∉ config.ignored → ∀ (source : PolicySource) (placement other : Placement),
    review ⟨config, source⟩ (carried.placed home placement) =
      review ⟨config, source⟩ (carried.placed home other)
  /-- A namespace that is to be let pass is, if the request names it, and nobody is asked. -/
  bypassed : home ∈ config.ignored → ∀ placement, placement ≠ .inObject →
    ∀ (m : Type → Type) [Monad m] (source : AskedSource m),
      reviewIn config source (carried.placed home placement) =
        pure (bypassing (carried.placed home placement))
  /-- Otherwise this is the namespace whose policies are asked for, once, and enforced. -/
  enforced : ∀ placement, (home ∈ config.ignored → placement = .inObject) →
    ∀ (m : Type → Type) [Monad m] (source : AskedSource m),
      reviewIn config source (carried.placed home placement) = do
        return carried.ruling config.unsetSelector home (← source home)

theorem placed_countsAlike (carried : Unplaced) (config : GatewayConfig) (home : String) :
    CountsAlike carried config home := by
  constructor
  case repeated =>
    intro source
    by_cases ignored : home ∈ config.ignored
    · -- Both requests name the namespace, so neither object is looked at.
      rw [review_placed_of_ignored ignored (by decide),
        review_placed_of_ignored ignored (by decide)]
      rfl
    · have watched : ∀ placement : Placement, home ∈ config.ignored → placement = .inObject :=
        fun _ isIgnored => absurd isIgnored ignored
      rw [review_placed_of_watched (watched _), review_placed_of_watched (watched _)]
  case anywhere =>
    intro watched source placement other
    have never : ∀ placement : Placement, home ∈ config.ignored → placement = .inObject :=
      fun _ isIgnored => absurd isIgnored watched
    rw [review_placed_of_watched (never _), review_placed_of_watched (never _)]
  case bypassed =>
    intro ignored placement named m _ source
    exact reviewIn_placed_of_ignored source ignored named
  case enforced =>
    intro placement watched m _ source
    exact reviewIn_placed_of_watched source watched

/-! ### A namespace that is let pass -/

/-- A Deployment of one replica. -/
def soloManifest : Manifest where
  types := some ⟨"apps/v1", "Deployment"⟩
  rest := [("spec", .obj [("replicas", .int 1)])]

def solo : Unplaced where
  request := { uid := "1", operation := .create }
  manifest := soloManifest
  deployment := { spec := some { replicas := some 1 } }
  wasRead := ⟨.value, .ofJson soloManifest.encode, by cbv⟩
  decodes := by cbv

/-- In the namespace of the system three replicas are asked for, of all Deployments. -/
def systemPolicy : Policy where
  metadata := { name := some "system", home := some "kube-system" }
  spec := { selector := some {}, replicas := some { minimum := 3 } }

def systemGateway : Gateway where
  config := default
  source := .fixed [systemPolicy]

/-- The place counts for a namespace that is let pass. -/
theorem not_always_alike : ¬ ∀ (carried : Unplaced) (config : GatewayConfig)
    (source : PolicySource) (home : String) (placement other : Placement),
      (review ⟨config, source⟩ (carried.placed home placement)).verdict =
        (review ⟨config, source⟩ (carried.placed home other)).verdict := by
  intro alike
  have same : (systemGateway.review (solo.placed "kube-system" .onRequest)).verdict =
      (systemGateway.review (solo.placed "kube-system" .inObject)).verdict :=
    alike solo default (.fixed [systemPolicy]) "kube-system" .onRequest .inObject
  have admitted : (systemGateway.review (solo.placed "kube-system" .onRequest)).verdict.allowed =
      true := rfl
  have denied : (systemGateway.review (solo.placed "kube-system" .inObject)).verdict.allowed =
      false := rfl
  rw [same, denied] at admitted
  cases admitted

theorem placed_countsAlike_system :
    systemGateway.review (solo.placed "kube-system" .onBoth) =
        systemGateway.review (solo.placed "kube-system" .onRequest) ∧
      (systemGateway.review (solo.placed "kube-system" .onRequest)).verdict = .allow ∧
      (systemGateway.review (solo.placed "kube-system" .inObject)).verdict.violations.length = 1 ∧
      systemGateway.review (solo.placed "default" .inObject) =
        systemGateway.review (solo.placed "default" .onRequest) :=
  have inSystem : CountsAlike solo default "kube-system" := placed_countsAlike _ _ _
  have inDefault : CountsAlike solo default "default" := placed_countsAlike _ _ _
  ⟨inSystem.repeated _, rfl, rfl, inDefault.anywhere (by decide) _ _ _⟩

end Unplaced

end Gateway

end AvailabilityGate
