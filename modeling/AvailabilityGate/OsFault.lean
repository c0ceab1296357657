/-!
Owns the faults that the operating system reports for files and addresses, and their two wordings.
-/

namespace AvailabilityGate

structure OsFault where
  code : Nat
  /-- The name of the kind of fault. -/
  kind : String
  text : String
deriving DecidableEq, Repr

namespace OsFault

def noSuchFile : OsFault where
  code := 2
  kind := "NotFound"
  text := "No such file or directory"

def permissionDenied : OsFault where
  code := 13
  kind := "PermissionDenied"
  text := "Permission denied"

def notADirectory : OsFault where
  code := 20
  kind := "NotADirectory"
  text := "Not a directory"

def isADirectory : OsFault where
  code := 21
  kind := "IsADirectory"
  text := "Is a directory"

def addressInUse : OsFault where
  code := 98
  kind := "AddrInUse"
  text := "Address already in use"

/-- There is no such service on this system. -/
def notImplemented : OsFault where
  code := 38
  kind := "Unsupported"
  text := "Function not implemented"

/-- The fault in a sentence. -/
def message (fault : OsFault) : String :=
  fault.text ++ " (os error " ++ toString fault.code ++ ")"

/-- All parts of the fault. -/
def details (fault : OsFault) : String :=
  "Os \x7b code: " ++ toString fault.code ++ ", kind: " ++ fault.kind ++ ", message: \"" ++
    fault.text ++ "\" \x7d"

end OsFault

end AvailabilityGate
