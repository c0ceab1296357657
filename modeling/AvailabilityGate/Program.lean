import AvailabilityGate.Cluster.Kubeconfig
import AvailabilityGate.CommandLine.Help
import AvailabilityGate.Gateway.Fault
import AvailabilityGate.Json.Yaml
import AvailabilityGate.Log
import AvailabilityGate.Schema.Policy
import AvailabilityGate.Tls.Material

/-!
Owns the program from its start to its end: it reads the command line, prints what it was asked to
print, or finds its cluster and runs the health server and the webhook for as long as both of them
go on.

What the program needs from the system around it is in `Surroundings`; everything else is decided
here.
-/

namespace AvailabilityGate.Program

/-- The servers that the program runs. -/
inductive Server where
  | health
  /-- The webhook, which lists policies at the given address. -/
  | webhook (config : GatewayConfig) (cluster : Http.Uri) (material : Tls.Material)

/-- What the program needs from the system. -/
structure Surroundings (m : Type → Type) where
  environment : String → Option String
  fileText : String → m (Except OsFault String)
  /-- Starts a server, which then answers until it is told to stop; fails if it cannot take its
  address. -/
  start : Server → Net.SocketAddress → m (Except OsFault Unit)
  log : LogEvent → m Unit

/-- How the program ends. -/
structure Ending where
  code : Nat
  /-- What it prints. -/
  output : String := ""
  /-- What it complains about. -/
  complaint : String := ""
deriving DecidableEq, Repr

/-- How the webhook ended, and whether it was ready for requests. -/
structure WebhookRun where
  ready : Bool
  result : Except GatewayFault Unit

variable {m : Type → Type} [Monad m] (around : Surroundings m)

/-- Runs the webhook: it is ready as soon as it has what it needs for TLS. -/
def runWebhook (config : GatewayConfig) (cluster : Http.Uri) (address : Net.SocketAddress)
    (chainPath keyPath : String) : m WebhookRun := do
  match ← Tls.Material.load around.fileText chainPath keyPath with
  | .error fault => return ⟨false, .error (.tls fault.message)⟩
  | .ok material =>
      match ← around.start (.webhook config cluster material) address with
      | .error fault => return ⟨true, .error (.server fault.message)⟩
      | .ok () => return ⟨true, .ok ()⟩

def logText (level : LogLevel) (message : String) : m Unit :=
  around.log { level, message }

/-- Runs both servers; the program goes on when one of them does not start or stops. -/
def runServers (settings : CommandLine.Settings) (cluster : Http.Uri) : m Unit := do
  match ← around.start .health settings.healthAddress with
  | .error fault => logText around .error ("Health server error: " ++ fault.message)
  | .ok () =>
      let run ← runWebhook around settings.gatewayConfig cluster settings.address
        settings.tlsCertFile settings.tlsKeyFile
      match run.result with
      | .error fault => logText around .error ("Webhook server error: " ++ fault.message)
      | .ok () => return ()

/-- Runs the service. -/
def serve (settings : CommandLine.Settings) : m Ending := do
  logText around .info "Starting barbossa"
  let home := (around.environment "HOME").getD ""
  match ← Cluster.address around.fileText home settings.kubeconfig settings.masterUrl with
  | .error fault => return { code := 1, complaint := "Error: " ++ fault.details }
  | .ok cluster =>
      logText around .info "Connected to Kubernetes cluster"
      runServers around settings cluster
      logText around .info "Webhook stopped"
      return { code := 0 }

/-- Runs the program. -/
def run (arguments : List String) : m Ending :=
  match CommandLine.read around.environment arguments with
  | .error (.help topic long) =>
      return { code := 0, output := CommandLine.helpPage around.environment topic long }
  | .error .version => return { code := 0, output := CommandLine.versionLine }
  | .error (.fault fault) => return { code := 2, complaint := "error: " ++ fault.message }
  | .ok invocation =>
      if invocation.command = some .crd then
        return { code := 0, output := Json.Yaml.document Schema.definition }
      else serve around invocation.settings

end AvailabilityGate.Program
