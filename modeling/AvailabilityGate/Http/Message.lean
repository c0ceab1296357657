import AvailabilityGate.Http.Status
import AvailabilityGate.Http.Uri
import AvailabilityGate.Json.Basic

/-!
Owns HTTP requests and replies, as far as a handler looks at them.

Bodies are texts. A body that is not UTF-8 is no `Request`, and nothing is said of it anywhere.
-/

namespace AvailabilityGate.Http

structure Request where
  method : String
  uri : Uri
  contentType : Option String := none
  /-- The bytes of the body, where they are UTF-8. -/
  body : String := ""

inductive Body where
  | text (value : String)
  | json (value : Json)
deriving Inhabited

structure Reply where
  status : Nat
  contentType : Option String := none
  body : Body := .text ""

namespace Reply

/-- A reply of plain text. -/
def plain (status : Nat) (text : String) : Reply :=
  { status, contentType := some "text/plain; charset=utf-8", body := .text text }

/-- A reply of JSON. -/
def json (status : Nat) (value : Json) : Reply :=
  { status, contentType := some "application/json", body := .json value }

/-- Nothing lives at the path. -/
def notFound : Reply :=
  { status := 404 }

/-- The path has no such method. -/
def methodNotAllowed : Reply :=
  { status := 405 }

/-- The reply without its body. -/
def headOnly (reply : Reply) : Reply :=
  { reply with body := .text "" }

end Reply

end AvailabilityGate.Http
