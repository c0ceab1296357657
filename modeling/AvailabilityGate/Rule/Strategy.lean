import AvailabilityGate.Bound.Scaling
import AvailabilityGate.Deployment
import AvailabilityGate.Policy.Basic
import AvailabilityGate.Rule.Report

/-!
Owns the strategy rule: a Deployment has the strategy type that the policy names, and a rolling
update keeps its surge and its unavailability within the policy's bounds.

Bounds are compared as numbers of pods: percentages are taken of the replicas and rounded up. A
bound that does not resolve disables the comparisons it takes part in, and each time a warning is
logged.
-/

namespace AvailabilityGate

/-- The strategy type whose bounds are compared. -/
def rollingUpdateType : String := "RollingUpdate"

/-- What the cluster takes for a bound that a Deployment leaves open. -/
def defaultBound : Bound := .text "25%"

namespace StrategyRule

def field : FieldPath :=
  FieldPath.spec.child "strategy"

def typeField : FieldPath :=
  field.child "type"

def rollingUpdateField : FieldPath :=
  field.child "rollingUpdate"

def surgeField : FieldPath :=
  rollingUpdateField.child "maxSurge"

def unavailableField : FieldPath :=
  rollingUpdateField.child "maxUnavailable"

/-- The warning for a bound that does not resolve. -/
def skipped (path : FieldPath) (fault : BoundFault) : LogEvent where
  level := .warn
  message := "Skipping rolling update bound check"
  fields := [("field", path.render), ("error", fault.message)]

/-- The number of pods that a bound stands for; without one, a warning is logged. -/
def resolveAt (path : FieldPath) (replicas : Int32) (bound : Bound) (report : Report) :
    Option Int32 × Report :=
  match bound.resolve .up replicas with
  | .ok count => (some count, report)
  | .error fault => (none, report.note (skipped path fault))

/-- The surge must not be below the bound. -/
def checkMinSurge
    (replicas surge : Int32)
    (observed limit : Bound)
    (report : Report) :
    Report :=
  match resolveAt surgeField replicas limit report with
  | (none, report) => report
  | (some least, report) =>
      if surge < least then
        report.add
          (.invalid surgeField observed.display ("should be at least " ++ limit.display))
      else report

/-- The surge must not be above the bound. -/
def checkMaxSurge
    (replicas surge : Int32)
    (observed limit : Bound)
    (report : Report) :
    Report :=
  match resolveAt surgeField replicas limit report with
  | (none, report) => report
  | (some most, report) =>
      if surge > most then
        report.add
          (.invalid surgeField observed.display ("should be at most " ++ limit.display))
      else report

/-- A check that is made only against a bound that the policy sets. -/
def whenSet (limit : Option Bound) (check : Bound → Report → Report) (report : Report) : Report :=
  match limit with
  | none => report
  | some bound => check bound report

/-- Both surge bounds; neither is looked at when the surge itself does not resolve. -/
def checkSurge
    (limits : RollingUpdateRule)
    (replicas : Int32)
    (observed : Bound)
    (report : Report) :
    Report :=
  match resolveAt surgeField replicas observed report with
  | (none, report) => report
  | (some surge, report) =>
      whenSet limits.maxSurge (checkMaxSurge replicas surge observed)
        (whenSet limits.minSurge (checkMinSurge replicas surge observed) report)

/-- The unavailability must not be above the bound; both are resolved before they are compared. -/
def checkUnavailable
    (replicas : Int32)
    (observed limit : Bound)
    (report : Report) :
    Report :=
  let (unavailable, report) := resolveAt unavailableField replicas observed report
  let (most, report) := resolveAt unavailableField replicas limit report
  match unavailable, most with
  | some unavailable, some most =>
      if unavailable > most then
        report.add
          (.invalid unavailableField observed.display ("should be at most " ++ limit.display))
      else report
  | _, _ => report

def checkBounds
    (limits : RollingUpdateRule)
    (replicas : Int32)
    (bounds : RollingUpdate)
    (report : Report) :
    Report :=
  whenSet limits.maxUnavailable
    (checkUnavailable replicas (bounds.maxUnavailable.getD defaultBound))
    (checkSurge limits replicas (bounds.maxSurge.getD defaultBound) report)

/-- The strategy type of a Deployment, empty when it names none. -/
def typeOf (deployment : Deployment) : String :=
  (deployment.strategy.bind DeploymentStrategy.type).getD ""

def check (rule : StrategyRule) (deployment : Deployment) (report : Report) : Report :=
  if typeOf deployment ≠ rule.type then
    report.add
      (.invalid typeField (typeOf deployment) ("should be '" ++ rule.type ++ "'"))
  else if rule.type ≠ rollingUpdateType then report
  else
    match deployment.strategy.bind DeploymentStrategy.rollingUpdate with
    | none => report.add (.required rollingUpdateField)
    | some bounds =>
        match deployment.replicas, rule.rollingUpdate with
        | some replicas, some limits => checkBounds limits replicas bounds report
        | _, _ => report

end StrategyRule

end AvailabilityGate
