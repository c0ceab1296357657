import AvailabilityGate.Gateway.Fault
import AvailabilityGate.Violation

/-!
Owns verdicts: whether a request is admitted, and if not, why.
-/

namespace AvailabilityGate

/-- Classes of denied requests. -/
inductive DenyReason where
  /-- The request could not be decoded. -/
  | badRequest
  /-- The policies could not be listed, or a selector not be read. -/
  | internalError
  /-- The Deployment violates its governing policy. -/
  | notAcceptable
deriving DecidableEq, Repr

def DenyReason.name : DenyReason → String
  | .badRequest => "BadRequest"
  | .internalError => "InternalError"
  | .notAcceptable => "NotAcceptable"

/-- The HTTP status that the response carries. -/
def DenyReason.code : DenyReason → Nat
  | .badRequest => 400
  | .internalError => 500
  | .notAcceptable => 406

/-- The class of a request that is denied for a fault. -/
def Blame.denyReason : Blame → DenyReason
  | .client => .badRequest
  | .server => .internalError

structure Denial where
  reason : DenyReason
  message : String
deriving DecidableEq, Repr

structure Verdict where
  allowed : Bool
  /-- In the order in which the rules report them; none when the request is admitted. -/
  violations : List Violation := []
  denial : Option Denial := none
deriving DecidableEq, Repr

namespace Verdict

def allow : Verdict where
  allowed := true

/-- Denied for a fault. -/
def ofFault (fault : GatewayFault) : Verdict where
  allowed := false
  denial := some ⟨fault.blame.denyReason, fault.message⟩

/-- Denied if there is any violation. -/
def ofViolations (violations : List Violation) : Verdict :=
  if violations.isEmpty then allow
  else
    { allowed := false
      violations
      denial := some ⟨.notAcceptable, Violation.aggregate violations⟩ }

end Verdict

end AvailabilityGate
