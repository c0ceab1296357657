import AvailabilityGate.Decode.Record
import AvailabilityGate.Decode.Variant

/-!
Owns the form of those parts of a cluster configuration that decide nothing here: users, preferences
and extensions. They are looked at like the rest of the file, and nothing of them is kept.
-/

namespace AvailabilityGate.Cluster.Form

private def text : Decoder Unit :=
  Decode.seen Decode.text

private def optionalText : Decoder Unit :=
  Decode.seen (Decode.optional Decode.text)

private def optionalFlag : Decoder Unit :=
  Decode.seen (Decode.optional Decode.bool)

private def textList : Decoder Unit :=
  Decode.seen (Decode.optional (Decode.list Decode.text))

private def textTable : Decoder Unit :=
  Decode.seen (Decode.optional (Decode.table Decode.text))

private def anything : Decoder Unit :=
  Decode.seen fun _ document => Decode.json document

def extension : Decode.Record Unit :=
  .checked "struct NamedExtension" [("name", text), ("extension", anything)] ["name", "extension"]

def extensions : Decoder Unit :=
  Decode.seen (Decode.optional (Decode.list extension.plain))

def preferences : Decode.Record Unit :=
  .checked "struct Preferences" [("colors", optionalFlag), ("extensions", extensions)]

/-- Who vouches for a user. -/
def provider : Decode.Record Unit :=
  .checked "struct AuthProviderConfig" [("name", text), ("config", textTable)] ["name"]

/-- Whether a command may ask its user; only the names are known here. -/
def interactiveMode : Decoder Unit
  | _, .str name =>
      Decode.named [("Never", ()), ("IfAvailable", ()), ("Always", ())] name
  | _, document => Decode.mismatch "a Value::Tagged enum" document

/-- A command that gets a user's credentials. -/
def command : Decode.Record Unit :=
  .checked "struct ExecConfig" [
    ("apiVersion", optionalText), ("command", optionalText), ("args", textList),
    ("env", Decode.seen (Decode.optional (Decode.list textTable))),
    ("interactiveMode", Decode.seen (Decode.optional interactiveMode)),
    ("provideClusterInfo", Decode.seen Decode.bool)]

def credentials : Decode.Record Unit :=
  .checked "struct AuthInfo" [
    ("username", optionalText), ("password", optionalText), ("token", optionalText),
    ("tokenFile", optionalText), ("client-certificate", optionalText),
    ("client-certificate-data", optionalText), ("client-key", optionalText),
    ("client-key-data", optionalText), ("as", optionalText), ("as-groups", textList),
    ("auth-provider", Decode.seen (Decode.optional provider.plain)),
    ("exec", Decode.seen (Decode.optional command.plain))]

def user : Decode.Record Unit :=
  .checked "struct NamedAuthInfo"
    [("name", text), ("user", Decode.seen (Decode.optional credentials.plain))] ["name"]

/-- What is said about a cluster beside its address. -/
def clusterDetails : List (String × Decoder Unit) :=
  [("insecure-skip-tls-verify", optionalFlag), ("certificate-authority", optionalText),
    ("certificate-authority-data", optionalText), ("proxy-url", optionalText),
    ("disable-compression", optionalFlag), ("tls-server-name", optionalText),
    ("extensions", extensions)]

/-- What is said in a context beside its cluster. -/
def contextDetails : List (String × Decoder Unit) :=
  [("user", optionalText), ("namespace", optionalText), ("extensions", extensions)]

/-- What is said in a file beside its contexts and clusters. -/
def fileDetails : List (String × Decoder Unit) :=
  [("preferences", Decode.seen (Decode.optional preferences.plain)),
    ("users", Decode.seen (Decode.optional (Decode.list user.plain))),
    ("extensions", extensions), ("kind", optionalText), ("apiVersion", optionalText)]

end AvailabilityGate.Cluster.Form
