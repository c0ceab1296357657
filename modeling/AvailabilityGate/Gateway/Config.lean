import AvailabilityGate.Governing
import AvailabilityGate.Text.Blank
import AvailabilityGate.Text.Pieces

/-!
Owns the configuration of the gateway: the namespaces that it lets pass, and what a policy without
a selector takes.
-/

namespace AvailabilityGate

structure GatewayConfig where
  /-- Requests in these namespaces are admitted without further ado. Ascending, each once. -/
  ignored : List String
  unsetSelector : UnsetSelector := .matchNone
deriving DecidableEq, Repr

namespace GatewayConfig

/-- The names in ascending order, each once. -/
def sortedNames (names : List String) : List String :=
  (Table.ofList (names.map fun name => (name, ()))).keys

/-- The namespaces that are let pass unless the configuration says otherwise. -/
def defaultIgnored : List String := ["kube-system", "kube-public"]

/-- The configuration in which the given namespaces are let pass. -/
def ofNames (names : List String) (unsetSelector : UnsetSelector) : GatewayConfig where
  ignored := sortedNames names
  unsetSelector

/-- The configuration that is meant by names as they were written: blanks around a name do not
count, and a blank name is none. -/
def ofWritten (names : List String) (unsetSelector : UnsetSelector) : GatewayConfig :=
  ofNames ((names.map Text.trim).filter (· ≠ "")) unsetSelector

/-- The pieces of a text between commas. -/
def splitNames (text : String) : List String :=
  (Text.pieces ',' text.toList).map String.ofList

/-- Whether a request in the given namespace, or in none, is let pass. -/
def ignores (config : GatewayConfig) (home : Option String) : Bool :=
  home.any config.ignored.contains

instance : Inhabited GatewayConfig := ⟨ofNames defaultIgnored .matchNone⟩

end GatewayConfig

end AvailabilityGate
