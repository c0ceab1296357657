import AvailabilityGate.Proofs.ByteOrder
import AvailabilityGate.Proofs.Rule.Independence
import AvailabilityGate.Proofs.Rule.Visibility
import Mathlib.Data.List.Nodup

/-!
Owns what the resource rule finds: the resources that a policy flags and a container does not declare.

Main statement: container by container, requests before limits, the rule reports each of these
resources once, by ascending name, and nothing else. With distinct container names no violation
comes twice.
-/

namespace AvailabilityGate

/-- The two ways in which a container declares a resource. -/
inductive ResourceKind where
  | requests
  | limits
deriving DecidableEq, Repr

namespace ResourceKind

def name : ResourceKind → String
  | .requests => "requests"
  | .limits => "limits"

def flags (rule : ResourcesRule) : ResourceKind → Table Bool
  | .requests => rule.requests
  | .limits => rule.limits

def declared (resources : ResourceRequirements) : ResourceKind → Option (Table String)
  | .requests => resources.requests
  | .limits => resources.limits

/-- Where a container would declare the resource. -/
def field (kind : ResourceKind) (container : Container) (resource : String) : FieldPath :=
  ⟨["spec", "template", "spec", "containers", container.name, "resources", kind.name, resource]⟩

/-- The field tells container, kind and resource. -/
theorem field_inj {kind other : ResourceKind} {container otherContainer : Container}
    {resource otherResource : String}
    (same : kind.field container resource = other.field otherContainer otherResource) :
    container.name = otherContainer.name ∧ kind = other ∧ resource = otherResource := by
  unfold field at same
  simp only [FieldPath.mk.injEq, List.cons.injEq, true_and, and_true] at same
  obtain ⟨sameContainer, sameKind, sameResource⟩ := same
  refine ⟨sameContainer, ?_, sameResource⟩
  cases kind <;> cases other <;> simp [name] at sameKind ⊢

/-- No other rule reports that deep below the Deployment. -/
theorem ne_field_of_short {path : FieldPath} (short : path.segments.length < 8)
    (kind : ResourceKind) (container : Container) (resource : String) :
    path ≠ kind.field container resource := by
  intro same
  rw [same] at short
  exact Nat.lt_irrefl 8 short

end ResourceKind

/-- The container has a quantity for the resource, whichever; without a table it has none. -/
def Container.Declares (container : Container) (kind : ResourceKind) (resource : String) : Prop :=
  ∃ resources ∈ container.resources, ∃ table ∈ kind.declared resources, resource ∈ table.keys

theorem Container.declares_iff {container : Container} {kind : ResourceKind} {resource : String} :
    container.Declares kind resource ↔
      resource ∈ declaredNames (container.resources.bind kind.declared) := by
  show _ ↔ ∃ table ∈ container.resources.bind kind.declared, resource ∈ table.keys
  unfold Declares
  cases container.resources <;> simp

namespace ResourcesRule

open Report

/-! ### One table of flags -/

/-- The names with the flag `true` that are not declared, in the order of the table. -/
def undeclared (flags : Table Bool) (declared : Option (Table String)) : List String :=
  (flags.entries.filter fun flag =>
    flag.2 && !declared.any fun table => table.contains flag.1).map Prod.fst

section Undeclared

variable {flags : Table Bool} {declared : Option (Table String)}

theorem mem_undeclared_iff {name : String} :
    name ∈ undeclared flags declared ↔
      flags.get? name = some true ∧ name ∉ declaredNames declared := by
  unfold undeclared
  rw [mem_declaredNames_iff, ← Table.mem_entries_iff, List.mem_map]
  constructor
  · intro listed
    obtain ⟨flag, kept, rfl⟩ := listed
    obtain ⟨member, condition⟩ := List.mem_filter.mp kept
    obtain ⟨isFlagged, isMissing⟩ := Bool.and_eq_true_iff.mp condition
    refine ⟨?_, by simpa using isMissing⟩
    rw [← isFlagged]
    exact member
  · intro both
    obtain ⟨member, isMissing⟩ := both
    refine ⟨(name, true), List.mem_filter.mpr ⟨member, ?_⟩, rfl⟩
    simpa using isMissing

theorem ascending_undeclared (flags : Table Bool) (declared : Option (Table String)) :
    (undeclared flags declared).Pairwise fun first second =>
      Text.bytes first < Text.bytes second := by
  unfold undeclared
  rw [List.pairwise_map]
  apply (flags.ascending.filter _).imp
  intro first second below
  exact (Text.bytes_lt_bytes_iff _ _).mpr below

/-- The loop over the flags. -/
theorem checkDeclared_eq (flags : Table Bool) (declared : Option (Table String)) (path : FieldPath)
    (report : Report) :
    checkDeclared flags declared path report =
      report ++
        { violations := (undeclared flags declared).map (Violation.required <| path.child ·) } := by
  unfold checkDeclared undeclared
  induction flags.entries generalizing report with
  | nil => exact append_empty.symm
  | cons flag rest inductionHypothesis =>
      rw [List.foldl_cons, inductionHypothesis, List.filter_cons]
      split
      · rw [add_eq, append_assoc]
        rfl
      · rfl

end Undeclared

/-! ### One container -/

def Flags (rule : ResourcesRule) (kind : ResourceKind) (resource : String) : Prop :=
  (kind.flags rule).get? resource = some true

/-- The flagged resources that the container does not declare, each once, by ascending name. -/
structure Lacks (rule : ResourcesRule) (container : Container) (kind : ResourceKind)
    (names : List String) : Prop where
  ascending : names.Pairwise fun first second => Text.bytes first < Text.bytes second
  mem_iff : ∀ resource,
    resource ∈ names ↔ rule.Flags kind resource ∧ ¬ container.Declares kind resource

def missing (rule : ResourcesRule) (container : Container) (kind : ResourceKind) : List String :=
  undeclared (kind.flags rule) (container.resources.bind kind.declared)

theorem lacks_missing (rule : ResourcesRule) (container : Container) (kind : ResourceKind) :
    rule.Lacks container kind (rule.missing container kind) where
  ascending := ascending_undeclared _ _
  mem_iff := by
    intro resource
    rw [Container.declares_iff]
    exact mem_undeclared_iff

/-- A violation for each missing resource, requests before limits. -/
def findings (rule : ResourcesRule) (container : Container) : List Violation :=
  [ResourceKind.requests, .limits].flatMap fun kind =>
    (rule.missing container kind).map fun resource => .required (kind.field container resource)

theorem checkContainer_eq (rule : ResourcesRule) (report : Report) (container : Container) :
    rule.checkContainer report container = report ++ { violations := rule.findings container } := by
  unfold checkContainer
  rw [checkDeclared_eq, checkDeclared_eq, append_assoc]
  unfold findings
  rw [List.flatMap_cons, List.flatMap_cons, List.flatMap_nil, List.append_nil]
  rfl

theorem mem_findings_iff {rule : ResourcesRule} {container : Container} {violation : Violation} :
    violation ∈ rule.findings container ↔
      ∃ kind resource, rule.Flags kind resource ∧ ¬ container.Declares kind resource ∧
        violation = .required (kind.field container resource) := by
  unfold findings
  simp only [List.mem_flatMap, List.mem_map, (rule.lacks_missing container _).mem_iff]
  constructor
  · intro listed
    obtain ⟨kind, _, resource, ⟨flagged, undeclared⟩, rfl⟩ := listed
    exact ⟨kind, resource, flagged, undeclared, rfl⟩
  · intro found
    obtain ⟨kind, resource, flagged, undeclared, rfl⟩ := found
    refine ⟨kind, ?_, resource, ⟨flagged, undeclared⟩, rfl⟩
    cases kind <;> simp

theorem nodup_missing (rule : ResourcesRule) (container : Container) (kind : ResourceKind) :
    (rule.missing container kind).Nodup :=
  (rule.lacks_missing container kind).ascending.imp fun below same =>
    absurd (same ▸ below) (List.lt_irrefl _)

theorem nodup_findings (rule : ResourcesRule) (container : Container) :
    (rule.findings container).Nodup := by
  unfold findings
  rw [List.nodup_flatMap]
  constructor
  · intro kind _
    apply (rule.nodup_missing container kind).map
    intro first second same
    exact (ResourceKind.field_inj (congrArg Violation.field same)).2.2
  · have differ : ResourceKind.requests ≠ .limits := by decide
    apply List.pairwise_pair.mpr
    intro violation inRequests inLimits
    obtain ⟨first, _, rfl⟩ := List.mem_map.mp inRequests
    obtain ⟨second, _, same⟩ := List.mem_map.mp inLimits
    exact differ (ResourceKind.field_inj (congrArg Violation.field same)).2.1.symm

/-! ### All containers -/

/-- The loop over the containers. -/
theorem check_eq (rule : ResourcesRule) (deployment : Deployment) (report : Report) :
    rule.check deployment report =
      report ++ { violations := deployment.containers.flatMap rule.findings } := by
  unfold check
  induction deployment.containers generalizing report with
  | nil => exact append_empty.symm
  | cons container rest inductionHypothesis =>
      rw [List.foldl_cons, inductionHypothesis, checkContainer_eq, append_assoc, List.flatMap_cons]
      rfl

theorem mem_check_iff {rule : ResourcesRule} {deployment : Deployment} {violation : Violation} :
    violation ∈ (rule.check deployment {}).violations ↔
      ∃ container ∈ deployment.containers, ∃ kind resource, rule.Flags kind resource ∧
        ¬ container.Declares kind resource ∧
        violation = .required (kind.field container resource) := by
  rw [check_eq, violations_append, List.nil_append, List.mem_flatMap]
  simp only [mem_findings_iff]

/-- Containers of different names are never reported at the same field. -/
theorem nodup_flatMap_findings (rule : ResourcesRule) {containers : List Container}
    (distinct : (containers.map Container.name).Nodup) :
    (containers.flatMap rule.findings).Nodup := by
  rw [List.nodup_flatMap]
  constructor
  · intro container _
    exact rule.nodup_findings container
  · apply (List.pairwise_map.mp distinct).imp
    intro first second differ violation inFirst inSecond
    obtain ⟨_, _, _, _, rfl⟩ := mem_findings_iff.mp inFirst
    obtain ⟨_, _, _, _, same⟩ := mem_findings_iff.mp inSecond
    exact differ (ResourceKind.field_inj (congrArg Violation.field same)).1

theorem flatMap_findings_eq_nil_iff {rule : ResourcesRule} {containers : List Container} :
    containers.flatMap rule.findings = [] ↔ ∀ container ∈ containers, ∀ kind resource,
      rule.Flags kind resource → container.Declares kind resource := by
  rw [List.flatMap_eq_nil_iff]
  constructor
  · intro nothing container member kind resource flagged
    by_contra undeclared
    have found := mem_findings_iff.mpr ⟨kind, resource, flagged, undeclared, rfl⟩
    rw [nothing container member] at found
    exact List.not_mem_nil found
  · intro complete container member
    apply List.eq_nil_iff_forall_not_mem.mpr
    intro violation found
    obtain ⟨kind, resource, flagged, undeclared, _⟩ := mem_findings_iff.mp found
    exact undeclared (complete container member kind resource flagged)

/-- The check adds, for one container after another, a violation for each request and then for each
limit that is flagged with `true` and not declared, by ascending name, and nothing else. No violation
comes twice where no container name does, and there is none exactly if everything flagged is
declared; a Deployment without a pod has nothing to declare. -/
theorem check_finds_missing (rule : ResourcesRule) (deployment : Deployment) :
    ∃ missing : Container → ResourceKind → List String,
      (∀ container kind, rule.Lacks container kind (missing container kind)) ∧
      let found := deployment.containers.flatMap fun container =>
        [ResourceKind.requests, .limits].flatMap fun kind =>
          (missing container kind).map fun resource =>
            Violation.required (kind.field container resource)
      (∀ report, rule.check deployment report = report ++ { violations := found }) ∧
      ((deployment.containers.map Container.name).Nodup → found.Nodup) ∧
      (found = [] ↔ ∀ container ∈ deployment.containers, ∀ kind resource,
        rule.Flags kind resource → container.Declares kind resource) ∧
      (deployment.spec.bind (fun spec => spec.template.spec) = none → found = []) := by
  refine ⟨rule.missing, rule.lacks_missing, rule.check_eq deployment,
    rule.nodup_flatMap_findings, flatMap_findings_eq_nil_iff, ?_⟩
  intro noPod
  have noContainers : deployment.containers = [] := by
    unfold Deployment.containers
    rw [noPod]
    rfl
  rw [noContainers]
  rfl

/-- Every container declares a request for processors and a limit on memory. -/
def cpuAndMemory : ResourcesRule where
  requests := .ofList [("cpu", true), ("memory", false)]
  limits := .ofList [("memory", true)]

/-- Two containers, of which the second declares nothing. -/
def withSidecar : Deployment where
  spec := some {
    template := { spec := some { containers := [
      { name := "app", resources := some { requests := some (.ofList [("cpu", "50m")]) } },
      { name := "sidecar" }] } } }

/-- The two containers have different names, so that their three violations differ; and without a
pod there are none. -/
theorem check_finds_missing_sidecar :
    (withSidecar.containers.map Container.name).Nodup ∧
      (cpuAndMemory.check withSidecar {}).violations.Nodup ∧
      (cpuAndMemory.check withSidecar {}).violations =
        [.required (ResourceKind.limits.field { name := "app" } "memory"),
          .required (ResourceKind.requests.field { name := "sidecar" } "cpu"),
          .required (ResourceKind.limits.field { name := "sidecar" } "memory")] ∧
      ({} : Deployment).spec.bind (fun spec => spec.template.spec) = none ∧
      cpuAndMemory.check {} {} = {} := by
  have distinct : (withSidecar.containers.map Container.name).Nodup := by decide
  obtain ⟨_, _, reports, unrepeated, _, _⟩ := check_finds_missing cpuAndMemory withSidecar
  obtain ⟨_, _, reportsOfNone, _, _, silent⟩ := check_finds_missing cpuAndMemory {}
  refine ⟨distinct, ?_, by decide +kernel, rfl, ?_⟩
  · rw [reports {}]
    exact unrepeated distinct
  · rw [reportsOfNone {}, silent rfl]
    rfl

end ResourcesRule

end AvailabilityGate
