import AvailabilityGate.Cluster.Form
import AvailabilityGate.Cluster.Spelling
import AvailabilityGate.Http.Uri
import AvailabilityGate.OsFault
import AvailabilityGate.Text.Blank

/-!
Owns the files that say how to reach a cluster: named contexts, each of which names a cluster, and
named clusters with their addresses; one context is the current one. Only the JSON form is read.
A record may be null, which is one without fields, but not an array.

Does not own connections: an address is checked for its form and not for who answers there.
-/

namespace AvailabilityGate.Cluster

/-- Why a file gives no address. -/
inductive KubeconfigFault where
  | unreadable (path : String) (fault : OsFault)
  | badText (fault : SpellingFault)
  | badStructure (failure : DecodeFailure)
  | noCurrentContext
  | unknownContext (name : String)
  | unknownCluster (name : String)
  | noAddress
  | badAddress (fault : Http.UriFault)

/-- The fault by its name and its parts. -/
def KubeconfigFault.details : KubeconfigFault → String
  | .unreadable path fault =>
      "ReadConfig(" ++ fault.details ++ ", " ++ Text.quoted path ++ ")"
  | .badText fault => "Parse(" ++ fault.details ++ ")"
  | .badStructure failure =>
      "InvalidStructure(Error(" ++ Text.quoted (failure.cause.messageIn .configuration) ++ "))"
  | .noCurrentContext => "CurrentContextNotSet"
  | .unknownContext name => "LoadContext(" ++ Text.quoted name ++ ")"
  | .unknownCluster name => "LoadClusterOfContext(" ++ Text.quoted name ++ ")"
  | .noAddress => "MissingClusterUrl"
  | .badAddress fault => "ParseClusterUrl(InvalidUri(" ++ fault.name ++ "))"

/-- A name, and what it stands for if the file says so. -/
structure Named (α : Type) where
  name : String
  value : Option α := none

structure Kubeconfig where
  current : Option String := none
  /-- Contexts with the names of their clusters. -/
  contexts : List (Named String) := []
  /-- Clusters with their addresses. -/
  clusters : List (Named (Option String)) := []

namespace Kubeconfig

/-- A record in which one field is kept and the others are looked at. -/
def keeping {α : Type} (title field : String) (required : Bool) (decode : Decoder α) (empty : α)
    (others : List (String × Decoder Unit)) : Decode.Record α where
  title
  fields := field :: others.map Prod.fst
  required := if required then [field] else []
  empty
  set name medium document value := do
    if name = field then decode medium document
    else
      match others.lookup name with
      | some look => look medium document
      | none => .ok ()
      return value

/-- A name with a part that stands under `field`. -/
def namedRecord {α : Type} (title field : String) (decode : Decoder α) :
    Decode.Record (Named α) where
  title
  fields := ["name", field]
  required := ["name"]
  empty := ⟨"", none⟩
  set name medium document entry := do
    if name = "name" then return { entry with name := ← Decode.text medium document }
    else return { entry with value := ← Decode.optional decode medium document }

/-- A context by the name of its cluster. -/
def contextRecord : Decode.Record String :=
  keeping "struct Context" "cluster" true Decode.text "" Form.contextDetails

/-- A cluster by its address. -/
def clusterRecord : Decode.Record (Option String) :=
  keeping "struct Cluster" "server" false (Decode.optional Decode.text) none Form.clusterDetails

/-- A list that may be null. -/
def listOf {α : Type} (decode : Decoder α) : Decoder (List α) := fun medium document => do
  let entries ← Decode.optional (Decode.list decode) medium document
  return entries.getD []

def record : Decode.Record Kubeconfig where
  title := "struct Kubeconfig"
  fields := "current-context" :: "contexts" :: "clusters" :: Form.fileDetails.map Prod.fst
  empty := {}
  set
    | "current-context", medium, document, config => do
        return { config with current := ← Decode.optional Decode.text medium document }
    | "contexts", medium, document, config => do
        let decode := (namedRecord "struct NamedContext" "context" contextRecord.plain).plain
        return { config with contexts := ← listOf decode medium document }
    | "clusters", medium, document, config => do
        let decode := (namedRecord "struct NamedCluster" "cluster" clusterRecord.plain).plain
        return { config with clusters := ← listOf decode medium document }
    | name, medium, document, config => do
        match Form.fileDetails.lookup name with
        | some look => look medium document
        | none => .ok ()
        return config

/-- Reads a file's text; one with nothing but blanks stands for an empty configuration. -/
def parse (text : String) : Except KubeconfigFault Kubeconfig :=
  if Text.trim text = "" then .ok {}
  else
    match Spelling.fault? text.toList with
    | some fault => .error (.badText fault)
    | none => (Decode.ofText record.plain text).mapError .badStructure

/-- What a name stands for in a list; the first entry of the name counts. -/
def lookup {α : Type} (name : String) (entries : List (Named α)) : Option α :=
  (entries.find? fun entry => entry.name = name).bind Named.value

/-- The address of the current context's cluster. -/
def address (config : Kubeconfig) : Except KubeconfigFault Http.Uri :=
  match config.current with
  | none => .error .noCurrentContext
  | some context =>
      match lookup context config.contexts with
      | none => .error (.unknownContext context)
      | some cluster =>
          match lookup cluster config.clusters with
          | none => .error (.unknownCluster cluster)
          | some none => .error .noAddress
          | some (some server) => (Http.Uri.parse server).mapError .badAddress

/-- The address that a file gives. -/
def load {m : Type → Type} [Monad m] (fileText : String → m (Except OsFault String))
    (path : String) : m (Except KubeconfigFault Http.Uri) := do
  match ← fileText path with
  | .error fault => return .error (.unreadable path fault)
  | .ok text => return (parse text).bind address

end Kubeconfig

/-- Why there is no way to the cluster. -/
inductive Fault where
  | kubeconfig (fault : KubeconfigFault)
  /-- Neither does the program run in a cluster, nor is there a file at the usual place. -/
  | nothingFound (fault : KubeconfigFault)
  | badOverride (fault : Http.UriFault)

def Fault.details : Fault → String
  | .kubeconfig fault => fault.details
  | .nothingFound fault =>
      "InferConfigError \x7b in_cluster: ReadEnvironmentVariable(NotPresent), kubeconfig: " ++
        fault.details ++ " \x7d"
  | .badOverride fault => "InvalidUri(" ++ fault.name ++ ")"

/-- The usual place of the file below a home directory. -/
def usualPath (home : String) : String :=
  home ++ "/.kube/config"

/-- The address from the given file, or else from the one at the usual place. -/
def configured {m : Type → Type} [Monad m] (fileText : String → m (Except OsFault String))
    (home : String) (path : Option String) : m (Except Fault Http.Uri) := do
  match path with
  | some path => return (← Kubeconfig.load fileText path).mapError .kubeconfig
  | none => return (← Kubeconfig.load fileText (usualPath home)).mapError .nothingFound

/-- The address of the cluster. An address given on its own takes the place of the configured one,
which must still be there. -/
def address {m : Type → Type} [Monad m] (fileText : String → m (Except OsFault String))
    (home : String) (path : Option String) (override : Option String) :
    m (Except Fault Http.Uri) := do
  match ← configured fileText home path with
  | .error fault => return .error fault
  | .ok uri =>
      match override with
      | none => return .ok uri
      | some text => return (Http.Uri.parse text).mapError .badOverride

end AvailabilityGate.Cluster
