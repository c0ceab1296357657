import AvailabilityGate.Proofs.Gateway.Decision
import AvailabilityGate.Proofs.Governing.Keys
import AvailabilityGate.Proofs.Rule.Visibility

/-!
Owns what the verdict on a Deployment depends on: the namespaces, the policies of the namespace
that it lives in, the labels that their selectors mention, and what the rules see of it.

Main statement: two submissions that agree on all this are given the same verdict, whatever else is
different about them.
-/

namespace AvailabilityGate.Gateway

/-- A request that carries a Deployment, and all policies that there are, of any namespace. -/
structure Submission where
  request : Admission.Request
  deployment : Deployment
  policies : List Policy
  decodes : ∃ manifest, request.object = some manifest ∧ manifest.deployment = .ok deployment

namespace Submission

/-- Where the Deployment lives: its own namespace, or else the one of the request. -/
def home? (submission : Submission) : Option String :=
  submission.deployment.metadata.home.or submission.request.home

/-- The policies of a namespace, in their order. -/
def policiesIn (submission : Submission) (home : String) : List Policy :=
  submission.policies.filter fun policy => policy.metadata.home = some home

/-- The gateway that lists the policies of the submission. -/
def gateway (submission : Submission) (config : GatewayConfig) : Gateway where
  config
  source := .fixed submission.policies

def verdict (submission : Submission) (config : GatewayConfig) : Verdict :=
  ((submission.gateway config).review submission.request).verdict

/-- Agreement on all that may count for the verdict. -/
structure Alike (left right : Submission) : Prop where
  requestHome : left.request.home = right.request.home
  home : left.home? = right.home?
  policies : ∀ home, left.home? = some home → left.policiesIn home = right.policiesIn home
  labels : ∀ home, left.home? = some home →
    Table.AgreeOn ((left.policiesIn home).flatMap Policy.mentions)
      left.deployment.labels right.deployment.labels
  deployment : left.deployment.LooksLike right.deployment

variable {left right : Submission} {config : GatewayConfig}

/-! ### The verdict by what it depends on -/

theorem verdict_of_ignored {submission : Submission}
    (ignored : Ignored (submission.gateway config) submission.request) :
    submission.verdict config = .allow :=
  review_of_ignored ignored

theorem verdict_of_homeless {submission : Submission}
    (watched : ¬ Ignored (submission.gateway config) submission.request)
    (homeless : submission.home? = none) :
    submission.verdict config = .ofFault (.undecodable "missing namespace") := by
  obtain ⟨manifest, object, decodes⟩ := submission.decodes
  exact Undecoded.verdict
    (.homeless watched object decodes (Option.or_eq_none_iff.mp homeless))

/-- The labels come in through the choice of the policy, and the rest of the Deployment through
what the policy reports on it. -/
theorem verdict_of_home {submission : Submission} {home : String}
    (watched : ¬ Ignored (submission.gateway config) submission.request)
    (lives : submission.home? = some home) :
    submission.verdict config =
      match Policy.resolve config.unsetSelector submission.deployment.labels
          (submission.policiesIn home) with
      | .error fault => .ofFault (.unresolved fault)
      | .ok none => .allow
      | .ok (some policy) => .ofViolations (policy.spec.validate submission.deployment).violations :=
  Carries.verdict_of_listed ⟨watched, submission.decodes, lives⟩ rfl

/-! ### Two submissions -/

theorem Alike.ignored_iff (alike : Alike left right) :
    Ignored (left.gateway config) left.request ↔ Ignored (right.gateway config) right.request := by
  unfold Ignored
  rw [alike.requestHome]
  exact Iff.rfl

/-- Submissions that agree on all that may count are given the same verdict. -/
theorem verdict_eq_of_alike (config : GatewayConfig) (left right : Submission)
    (alike : Alike left right) : left.verdict config = right.verdict config := by
  by_cases ignored : Ignored (left.gateway config) left.request
  · rw [verdict_of_ignored ignored, verdict_of_ignored (alike.ignored_iff.mp ignored)]
  · have watched : ¬ Ignored (right.gateway config) right.request :=
      fun otherIgnored => ignored (alike.ignored_iff.mpr otherIgnored)
    cases lives : left.home? with
    | none =>
        have homeless : right.home? = none := alike.home.symm.trans lives
        rw [verdict_of_homeless ignored lives, verdict_of_homeless watched homeless]
    | some home =>
        have alsoLives : right.home? = some home := alike.home.symm.trans lives
        rw [verdict_of_home ignored lives, verdict_of_home watched alsoLives,
          Policy.resolve_congr (alike.labels home lives), alike.policies home lives]
        simp only [PolicySpec.validate_congr alike.deployment]

/-! ### Two submissions that differ in what does not count -/

/-- A Deployment of one replica whose container declares a request of CPU. -/
def webManifest (name quantity : String) (labels notes : Table String) : Manifest where
  types := some ⟨"apps/v1", "Deployment"⟩
  metadata := { name := some name, labels := some labels, annotations := some notes }
  rest := [
    ("spec", .obj [
      ("replicas", .int 1),
      ("template", .obj [("spec", .obj [("containers", .arr [.obj [
        ("name", .str "main"),
        ("resources", .obj [("requests", .obj [("cpu", .str quantity)])])]])])])]),
    ("status", .obj [("replicas", .int 1)])]

def webDeployment (name quantity : String) (labels notes : Table String) : Deployment where
  metadata := { name := some name, labels := some labels, annotations := some notes }
  spec := some {
    replicas := some 1
    template := { spec := some { containers := [{
      name := "main"
      resources := some { requests := some (.ofList [("cpu", quantity)]) } }] } } }

/-- Three replicas and a request of memory are asked for. -/
def demandingPolicy : Policy where
  metadata := { name := some "demanding", home := some "default" }
  spec := {
    selector := some { matchLabels := some Policy.webLabels }
    replicas := some { minimum := 3 }
    resources := some { requests := .ofList [("memory", true)] } }

def plainSubmission : Submission where
  request := {
    uid := "1"
    home := some "default"
    operation := .create
    object := some (webManifest "web" "1" Policy.webLabels .empty) }
  deployment := webDeployment "web" "1" Policy.webLabels .empty
  policies := [demandingPolicy]
  decodes := ⟨_, rfl, rfl⟩

/-- The same with another uid, operation, name, quantity, a further label and an annotation, and
with a malformed policy in another namespace. -/
def noisySubmission : Submission where
  request := {
    uid := "2"
    name := "shop"
    home := some "default"
    operation := .update
    object := some (webManifest "shop" "250m" (.ofList [("app", "web"), ("tier", "front")])
      (.ofList [("owner", "shop")])) }
  deployment := webDeployment "shop" "250m" (.ofList [("app", "web"), ("tier", "front")])
    (.ofList [("owner", "shop")])
  policies := [
    { Policy.brokenPolicy "broken" 9 with metadata := { home := some "other" } },
    demandingPolicy]
  decodes := ⟨_, rfl, rfl⟩

theorem plain_alike_noisy : Alike plainSubmission noisySubmission where
  requestHome := rfl
  home := rfl
  policies := by
    intro home lives
    cases lives
    rfl
  labels := by
    intro home lives key member
    cases lives
    have onlyKey : key = "app" := by simpa using (show key ∈ ["app"] from member)
    subst onlyKey
    rfl
  deployment := {
    replicas := rfl
    strategy := rfl
    containers := by
      have sameNames : declaredNames (some (.ofList [("cpu", "1")])) =
          declaredNames (some (.ofList [("cpu", "250m")])) := declaredNames_eq_of_keys rfl
      exact congrArg (fun requests => [(⟨"main", requests, declaredNames none⟩ : Container.View)])
        sameNames }

theorem verdict_eq_of_alike_noisy :
    Alike plainSubmission noisySubmission ∧
      plainSubmission.verdict default = noisySubmission.verdict default ∧
      (noisySubmission.verdict default).violations.length = 2 :=
  ⟨plain_alike_noisy,
    verdict_eq_of_alike default plainSubmission noisySubmission plain_alike_noisy, rfl⟩

end Submission

end AvailabilityGate.Gateway
