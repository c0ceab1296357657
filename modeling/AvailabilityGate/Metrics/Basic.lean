import AvailabilityGate.Gateway.Verdict
import AvailabilityGate.Metrics.Histogram

/-!
Owns the metrics of admission: requests by outcome, violations, and the time that reviews take.
-/

namespace AvailabilityGate

namespace Metrics

/-- The outcome of a request as it is counted. -/
structure Outcome where
  allowed : Bool
  reason : Option DenyReason
deriving DecidableEq, Repr

def Outcome.ofVerdict (verdict : Verdict) : Outcome where
  allowed := verdict.allowed
  reason := verdict.denial.map Denial.reason

/-- The bounds of the time buckets in seconds: from half a millisecond, each twice the one
before, and one for all that is longer. -/
def durationBounds : List Float :=
  Histogram.growingBounds 2 15 0.0005 ++ [1.7976931348623157e308]

end Metrics

structure Metrics where
  /-- The requests counted under each outcome that arose. -/
  requests : List (Metrics.Outcome × Nat) := []
  violations : Nat := 0
  durations : Metrics.Histogram := { buckets := Metrics.durationBounds.map (·, 0) }

namespace Metrics

/-- Counts one more request under an outcome. -/
def countOutcome (outcome : Outcome) : List (Outcome × Nat) → List (Outcome × Nat)
  | [] => [(outcome, 1)]
  | entry :: rest =>
      if entry.1 = outcome then (outcome, entry.2 + 1) :: rest
      else entry :: countOutcome outcome rest

/-- Records a verdict that took so many seconds. -/
def record (metrics : Metrics) (verdict : Verdict) (seconds : Float) : Metrics where
  requests := countOutcome (.ofVerdict verdict) metrics.requests
  violations := metrics.violations + verdict.violations.length
  durations := metrics.durations.observe seconds

/-- The requests counted under an outcome. -/
def requestsWith (metrics : Metrics) (outcome : Outcome) : Nat :=
  (metrics.requests.lookup outcome).getD 0

/-- All requests. -/
def requestTotal (metrics : Metrics) : Nat :=
  metrics.requests.foldr (fun entry total => entry.2 + total) 0

end Metrics

end AvailabilityGate
