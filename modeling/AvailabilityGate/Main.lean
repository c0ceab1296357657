import AvailabilityGate.Json.Printer
import AvailabilityGate.Program

/-!
Owns the executable: the system around the program. Log events go to standard output as one line of
JSON each.

Does not own a network: no address can be taken, so neither of the two servers starts.
-/

namespace AvailabilityGate.Main

/-- The fault behind an error of the system. -/
def osFault : IO.Error → OsFault
  | .noFileOrDirectory .. => .noSuchFile
  | .permissionDenied .. => .permissionDenied
  | .inappropriateType .. => .isADirectory
  | _ => .notADirectory

def fileText (path : String) : IO (Except OsFault String) := do
  try
    return .ok (← IO.FS.readFile path)
  catch fault =>
    return .error (osFault fault)

def logLine (event : LogEvent) : String :=
  let fields := ("message", event.message) :: event.fields
  (Json.obj [
    ("level", .str event.level.name),
    ("fields", .obj (fields.map fun field => (field.1, .str field.2)))]).compact

/-- The names of the variables that the program looks at. -/
def variableNames : List String :=
  "HOME" :: CommandLine.Flag.all.map CommandLine.Flag.environmentName

/-- The environment, as far as the program looks at it. -/
def readEnvironment : IO (String → Option String) := do
  let entries ← variableNames.mapM fun name => do return (name, ← IO.getEnv name)
  return fun name => (entries.lookup name).join

def surroundings : IO (Program.Surroundings IO) := do
  return {
    environment := ← readEnvironment
    fileText
    start := fun _ _ => return .error .notImplemented
    log := fun event => IO.println (logLine event) }

end AvailabilityGate.Main

open AvailabilityGate in
def main (arguments : List String) : IO UInt32 := do
  let ending ← Program.run (← Main.surroundings) arguments
  IO.print ending.output
  unless ending.complaint.isEmpty do
    IO.eprintln ending.complaint
  return UInt32.ofNat ending.code
