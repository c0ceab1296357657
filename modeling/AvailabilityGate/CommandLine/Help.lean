import AvailabilityGate.CommandLine.Arguments

/-!
Owns the help pages and the version line of the program. A short page gives every flag two lines, a
long one a paragraph.
-/

namespace AvailabilityGate.CommandLine

/-- What the program is. -/
def about : String :=
  "Admission webhook enforcing HighAvailabilityPolicy resources on Deployments"

def versionLine : String := "barbossa 0.1.0\n"

def Subcommand.about : Subcommand → String
  | .webhook => "Run the webhook server (default)"
  | .crd => "Print the HighAvailabilityPolicy CRD as YAML"

def helpAbout : String := "Print this message or the help of the given subcommand(s)"

def Flag.about : Flag → String
  | .address => "Address to serve the webhook on"
  | .tlsCertFile => "TLS certificate file (PEM)"
  | .tlsKeyFile => "TLS private key file (PEM)"
  | .healthAddress => "Address to serve health probes and metrics on"
  | .kubeconfig => "Kubeconfig to use instead of the in-cluster / default configuration"
  | .masterUrl => "Override the API server URL"
  | .ignoredNamespaces => "Namespaces whose requests are always allowed"
  | .unsetSelector => "How policies without a selector are treated"

def unsetSelectorAbout : UnsetSelector → String
  | .matchNone => "The policy selects nothing"
  | .matchAll => "The policy selects every Deployment in its namespace"

/-- The default of a flag, as a page of help shows it. -/
def Flag.defaultText (flag : Flag) : Option String :=
  let settings : Settings := {}
  match flag with
  | .address => some settings.address.text
  | .tlsCertFile => some settings.tlsCertFile
  | .tlsKeyFile => some settings.tlsKeyFile
  | .healthAddress => some settings.healthAddress.text
  | .kubeconfig => none
  | .masterUrl => none
  | .ignoredNamespaces => some (" ".intercalate settings.ignoredNamespaces)
  | .unsetSelector => some (unsetSelectorName settings.unsetSelector)

/-- The flag with its value, as a page of help lists it. -/
def Flag.listed (flag : Flag) : String :=
  Text.Terminal.emphasized ("--" ++ flag.name) ++ " <" ++ flag.valueName ++ ">"

/-- A flag without a value, short and long. -/
def listedSwitch (short long : String) : String :=
  Text.Terminal.emphasized short ++ ", " ++ Text.Terminal.emphasized long

/-- The blanks in front of the text of a flag. -/
def margin : String := "          "

/-- A text with the margin in front of every line but the first. -/
def indented (text : String) : String :=
  ("\n" ++ margin).intercalate (text.splitOn "\n")

/-- Where a flag may come from besides the command line: its variable and its default. -/
def Flag.sources (environment : String → Option String) (flag : Flag) : List String :=
  ("[env: " ++ flag.environmentName ++ "=" ++ (environment flag.environmentName).getD "" ++ "]") ::
    (match flag.defaultText with
    | none => []
    | some text => ["[default: " ++ text ++ "]"])

/-- A text filled up with blanks. -/
def padded (width : Nat) (text : String) : String :=
  text ++ String.ofList (List.replicate (width - text.length) ' ')

/-- The choices of a flag, for a short and for a long page. -/
def Flag.choices : Flag → List (String × String)
  | .unsetSelector => unsetSelectors.map fun entry => (entry.1, unsetSelectorAbout entry.2)
  | _ => []

def Flag.shortChoices (flag : Flag) : List String :=
  if flag.choices.isEmpty then []
  else ["[possible values: " ++ ", ".intercalate (flag.choices.map Prod.fst) ++ "]"]

def Flag.longChoices (flag : Flag) : String :=
  let width := (flag.choices.map fun choice => choice.1.length).foldl max 0
  if flag.choices.isEmpty then ""
  else
    "\n\n" ++ margin ++ "Possible values:" ++
      String.join (flag.choices.map fun choice =>
        "\n" ++ margin ++ "- " ++ padded (width + 2) (choice.1 ++ ":") ++ choice.2)

/-- One entry of the list of options; `call` is how the option is written. -/
def entry (call text : String) : String :=
  call ++ "\n" ++ margin ++ text ++ "\n"

def Flag.shortEntry (environment : String → Option String) (flag : Flag) : String :=
  entry ("      " ++ flag.listed)
    (indented (" ".intercalate (flag.about :: flag.sources environment ++ flag.shortChoices)))

def Flag.longEntry (environment : String → Option String) (flag : Flag) : String :=
  entry ("      " ++ flag.listed)
    (flag.about ++ flag.longChoices ++
      indented ("\n\n" ++ "\n".intercalate (flag.sources environment)))

def helpEntry (long : Bool) : String :=
  entry ("  " ++ listedSwitch "-h" "--help")
    (if long then "Print help (see a summary with '-h')"
    else "Print help (see more with '--help')")

def versionEntry : String :=
  entry ("  " ++ listedSwitch "-V" "--version") "Print version"

/-- The options of a level; only the program itself has a version. -/
def optionList (environment : String → Option String) (long versioned : Bool) : String :=
  let flags := Flag.all.map fun flag =>
    if long then flag.longEntry environment else flag.shortEntry environment
  "Options:\n" ++
    (if long then "\n" else "").intercalate
      (flags ++ [helpEntry long] ++ if versioned then [versionEntry] else [])

def commandList : String :=
  let commands := Subcommand.all.map (fun command => (command.name, command.about)) ++
    [("help", helpAbout)]
  "Commands:\n" ++ String.join (commands.map fun command =>
    "  " ++ padded 9 command.1 ++ command.2 ++ "\n")

/-- A page of help as a terminal shows it. -/
def terminalPage (environment : String → Option String) (topic : Topic) (long : Bool) : String :=
  match topic with
  | .program =>
      about ++ "\n\nUsage: barbossa [OPTIONS] [COMMAND]\n\n" ++ commandList ++ "\n" ++
        optionList environment long true
  | .subcommand command =>
      command.about ++ "\n\nUsage: barbossa " ++ command.name ++ " [OPTIONS]\n\n" ++
        optionList environment long false
  | .help =>
      helpAbout ++ "\n\nUsage: barbossa help [COMMAND]...\n\nArguments:\n" ++
        entry "  [COMMAND]..." "Print help for the subcommand(s)"

/-- A page of help where no terminal shows it. -/
def helpPage (environment : String → Option String) (topic : Topic) (long : Bool) : String :=
  Text.Terminal.plain (terminalPage environment topic long)

end AvailabilityGate.CommandLine
