import AvailabilityGate.Gateway.Config
import AvailabilityGate.Net.SocketAddress
import AvailabilityGate.Text.Terminal

/-!
Owns the settings of the program and the flags by which they are given: every setting has a flag,
an environment variable and a default.
-/

namespace AvailabilityGate.CommandLine

inductive Flag where
  | address
  | tlsCertFile
  | tlsKeyFile
  | healthAddress
  | kubeconfig
  | masterUrl
  | ignoredNamespaces
  | unsetSelector
deriving DecidableEq, Repr

namespace Flag

/-- All flags, in the order in which they are listed. -/
def all : List Flag :=
  [.address, .tlsCertFile, .tlsKeyFile, .healthAddress, .kubeconfig, .masterUrl,
    .ignoredNamespaces, .unsetSelector]

def name : Flag → String
  | .address => "address"
  | .tlsCertFile => "tls-cert-file"
  | .tlsKeyFile => "tls-key-file"
  | .healthAddress => "health-address"
  | .kubeconfig => "kubeconfig"
  | .masterUrl => "master-url"
  | .ignoredNamespaces => "ignored-namespaces"
  | .unsetSelector => "unset-selector"

def ofName? (name : String) : Option Flag :=
  all.find? fun flag => flag.name = name

/-- The name of the value that the flag takes. -/
def valueName (flag : Flag) : String :=
  String.ofList (flag.name.toList.map fun c => if c = '-' then '_' else c.toUpper)

/-- The flag with its value, as messages refer to it. -/
def usage (flag : Flag) : String :=
  "--" ++ flag.name ++ " <" ++ flag.valueName ++ ">"

/-- The environment variable that stands in for the flag. -/
def environmentName : Flag → String
  | .kubeconfig => "KUBECONFIG"
  | flag => "BARBOSSA_" ++ flag.valueName

end Flag

/-- The written forms of the choice for policies without a selector. -/
def unsetSelectors : List (String × UnsetSelector) :=
  [("match-none", .matchNone), ("match-all", .matchAll)]

def unsetSelectorName : UnsetSelector → String
  | .matchNone => "match-none"
  | .matchAll => "match-all"

structure Settings where
  address : Net.SocketAddress := .v4 [0, 0, 0, 0] 9443
  tlsCertFile : String := "/etc/webhook/certs/tls.crt"
  tlsKeyFile : String := "/etc/webhook/certs/tls.key"
  healthAddress : Net.SocketAddress := .v4 [0, 0, 0, 0] 8080
  kubeconfig : Option String := none
  masterUrl : Option String := none
  /-- As written, with blanks and empty names. -/
  ignoredNamespaces : List String := GatewayConfig.defaultIgnored
  unsetSelector : UnsetSelector := .matchNone
deriving DecidableEq, Repr

/-- Ways in which the command line is wrong. -/
inductive UsageFault where
  | unknownArgument (argument : String)
  | unknownSubcommand (name : String)
  | missingValue (flag : Flag)
  | badAddress (flag : Flag) (value : String)
  | badChoice (flag : Flag) (value : String)
  | repeated (flag : Flag)
  | unwantedValue (argument value : String)
deriving DecidableEq, Repr

/-- A part of a message that stands out on a terminal. -/
private def pointedOut (text : String) : String :=
  "'" ++ Text.Terminal.emphasized text ++ "'"

/-- The message as a terminal shows it. -/
def UsageFault.terminalMessage : UsageFault → String
  | .unknownArgument argument => "unexpected argument " ++ pointedOut argument ++ " found"
  | .unknownSubcommand name => "unrecognized subcommand " ++ pointedOut name
  | .missingValue flag =>
      "a value is required for " ++ pointedOut flag.usage ++ " but none was supplied"
  | .badAddress flag value =>
      "invalid value " ++ pointedOut value ++ " for " ++ pointedOut flag.usage ++
        ": invalid socket address syntax"
  | .badChoice flag value =>
      "invalid value " ++ pointedOut value ++ " for " ++ pointedOut flag.usage
  | .repeated flag => "the argument " ++ pointedOut flag.usage ++ " cannot be used multiple times"
  | .unwantedValue argument value =>
      "unexpected value " ++ pointedOut value ++ " for " ++ pointedOut argument ++
        " found; no more were expected"

/-- The message where no terminal shows it. -/
def UsageFault.message (fault : UsageFault) : String :=
  Text.Terminal.plain fault.terminalMessage

namespace Settings

/-- The configuration of the gateway that the settings ask for. -/
def gatewayConfig (settings : Settings) : GatewayConfig :=
  .ofWritten settings.ignoredNamespaces settings.unsetSelector

/-- Takes one setting over from other settings. -/
def take (flag : Flag) (settings other : Settings) : Settings :=
  match flag with
  | .address => { settings with address := other.address }
  | .tlsCertFile => { settings with tlsCertFile := other.tlsCertFile }
  | .tlsKeyFile => { settings with tlsKeyFile := other.tlsKeyFile }
  | .healthAddress => { settings with healthAddress := other.healthAddress }
  | .kubeconfig => { settings with kubeconfig := other.kubeconfig }
  | .masterUrl => { settings with masterUrl := other.masterUrl }
  | .ignoredNamespaces => { settings with ignoredNamespaces := other.ignoredNamespaces }
  | .unsetSelector => { settings with unsetSelector := other.unsetSelector }

def readAddress (flag : Flag) (value : String) : Except UsageFault Net.SocketAddress :=
  match Net.SocketAddress.parse? value with
  | some address => .ok address
  | none => .error (.badAddress flag value)

/-- A path is any text but the empty one. -/
def readPath (flag : Flag) (value : String) : Except UsageFault String :=
  if value = "" then .error (.missingValue flag) else .ok value

def readUnsetSelector (flag : Flag) (value : String) : Except UsageFault UnsetSelector :=
  if value = "" then .error (.missingValue flag)
  else
    match unsetSelectors.lookup value with
    | some choice => .ok choice
    | none => .error (.badChoice flag value)

/-- Stores a written value. Names of namespaces are added to those given `before`; every other
value takes the place of what was there. -/
def store (flag : Flag) (before : Bool) (value : String) (settings : Settings) :
    Except UsageFault Settings :=
  match flag with
  | .address => do return { settings with address := ← readAddress flag value }
  | .tlsCertFile => do return { settings with tlsCertFile := ← readPath flag value }
  | .tlsKeyFile => do return { settings with tlsKeyFile := ← readPath flag value }
  | .healthAddress => do return { settings with healthAddress := ← readAddress flag value }
  | .kubeconfig => do return { settings with kubeconfig := some (← readPath flag value) }
  | .masterUrl => .ok { settings with masterUrl := some value }
  | .ignoredNamespaces =>
      let names := GatewayConfig.splitNames value
      .ok { settings with
        ignoredNamespaces := (if before then settings.ignoredNamespaces else []) ++ names }
  | .unsetSelector => do
      return { settings with unsetSelector := ← readUnsetSelector flag value }

end Settings

end AvailabilityGate.CommandLine
