import AvailabilityGate.Governing
import AvailabilityGate.Listing.Fault

/-!
Owns what can go wrong around an admission decision. A fault is the client's if the object that it
sent is no Deployment, and the server's otherwise.
-/

namespace AvailabilityGate

inductive GatewayFault where
  | listing (fault : Listing.Fault)
  | undecodable (text : String)
  | unresolved (fault : ResolveFault)
  | tls (text : String)
  | server (text : String)

/-- Whose fault it is. -/
inductive Blame where
  | client
  | server
deriving DecidableEq, Repr

namespace GatewayFault

def message : GatewayFault → String
  | .listing fault => "Kubernetes API error: " ++ fault.message
  | .undecodable text => "Decode error: " ++ text
  | .unresolved fault => fault.message
  | .tls text => "TLS configuration error: " ++ text
  | .server text => "Webhook server error: " ++ text

def blame : GatewayFault → Blame
  | .undecodable _ => .client
  | _ => .server

end GatewayFault

end AvailabilityGate
