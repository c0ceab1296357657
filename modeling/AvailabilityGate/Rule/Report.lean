import AvailabilityGate.Log
import AvailabilityGate.Violation

/-!
Owns the report that the rules write: violations and log events, each in the order in which they
were found. A rule takes a report and gives it back with its own findings behind the others.
-/

namespace AvailabilityGate

structure Report where
  violations : List Violation := []
  log : List LogEvent := []
deriving DecidableEq, Repr

namespace Report

def add (report : Report) (violation : Violation) : Report :=
  { report with violations := report.violations ++ [violation] }

def note (report : Report) (event : LogEvent) : Report :=
  { report with log := report.log ++ [event] }

end Report

end AvailabilityGate
