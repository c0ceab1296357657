/-!
Owns log events as data. A computation that logs gives its events back in order; what becomes of
them is up to the program around it.
-/

namespace AvailabilityGate

inductive LogLevel where
  | debug
  | info
  | warn
  | error
deriving DecidableEq, Repr

def LogLevel.name : LogLevel → String
  | .debug => "DEBUG"
  | .info => "INFO"
  | .warn => "WARN"
  | .error => "ERROR"

structure LogEvent where
  level : LogLevel
  message : String
  /-- Named texts that say what the event is about. -/
  fields : List (String × String) := []
deriving DecidableEq, Repr

end AvailabilityGate
