import AvailabilityGate.Decode.Failure
import AvailabilityGate.Http.Uri

/-!
Owns the ways in which a listing of policies from the cluster fails, and their wording.
-/

namespace AvailabilityGate.Listing

/-- The error object with which the cluster answers a failed request. -/
structure ErrorReply where
  status : String
  message : String := ""
  reason : String := ""
  code : Nat
deriving DecidableEq, Repr

/-- All parts of the error, texts quoted. -/
def ErrorReply.details (reply : ErrorReply) : String :=
  "ErrorResponse \x7b status: " ++ Text.quoted reply.status ++
    ", message: " ++ Text.quoted reply.message ++
    ", reason: " ++ Text.quoted reply.reason ++
    ", code: " ++ toString reply.code ++ " \x7d"

inductive Fault where
  /-- The namespace makes no part of a URI. -/
  | badRequest (fault : Http.UriFault)
  | refused (reply : ErrorReply)
  | badReply (failure : DecodeFailure)

def Fault.message : Fault → String
  | .badRequest fault => "Failed to build request: failed to build request: " ++ fault.message
  | .refused reply =>
      "ApiError: " ++ reply.message ++ ": " ++ reply.reason ++ " (" ++ reply.details ++ ")"
  | .badReply failure => "Error deserializing response: " ++ failure.message

end AvailabilityGate.Listing
