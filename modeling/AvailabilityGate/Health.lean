import AvailabilityGate.Http.Message
import AvailabilityGate.Metrics.Exposition

/-!
Owns the health of the service, and the server that shows it: `GET` for liveness, readiness and
metrics.
-/

namespace AvailabilityGate

/-- What those who watch the service can see of it. -/
structure Health where
  /-- Whether the service can take requests. -/
  ready : Bool := false
  metrics : Metrics := {}

namespace Health

def metricsReply (health : Health) : Http.Reply where
  status := 200
  contentType := some "text/plain; version=0.0.4; charset=utf-8"
  body := .text health.metrics.exposition

/-- The page at a path. -/
def page? (health : Health) : String → Option Http.Reply
  | "/healthz" => some (.plain 200 "ok")
  | "/readyz" => some (if health.ready then .plain 200 "ready" else .plain 503 "not ready")
  | "/metrics" => some health.metricsReply
  | _ => none

def handle (health : Health) (request : Http.Request) : Http.Reply :=
  match health.page? request.uri.path with
  | none => .notFound
  | some page =>
      match request.method with
      | "GET" => page
      | "HEAD" => page.headOnly
      | _ => .methodNotAllowed

end Health

end AvailabilityGate
