import AvailabilityGate.CommandLine.Flag

/-!
Owns the reading of a command line.

There are two levels, the program and one of its subcommands, and every flag may stand on either.
A flag takes its value from the same argument, behind an equals sign, or from the next one, and the
value is looked at only when the next flag or the end of the level is reached; an argument that is
no flag at all is refused before that. A flag on the inner level wins over the same flag on the
outer one, any flag over the environment, and the environment over the default; but each level
looks at the environment for the flags that were not given on it.
-/

namespace AvailabilityGate.CommandLine

inductive Subcommand where
  | webhook
  | crd
deriving DecidableEq, Repr

def Subcommand.name : Subcommand → String
  | .webhook => "webhook"
  | .crd => "crd"

def Subcommand.all : List Subcommand :=
  [.webhook, .crd]

def Subcommand.ofName? (name : String) : Option Subcommand :=
  all.find? fun command => command.name = name

/-- What a page of help is about. -/
inductive Topic where
  | program
  | subcommand (command : Subcommand)
  | help
deriving DecidableEq, Repr

/-- Why the program does not run. -/
inductive Stop where
  | help (topic : Topic) (long : Bool)
  | version
  | fault (fault : UsageFault)
deriving DecidableEq, Repr

/-- A command line that was understood. -/
structure Invocation where
  command : Option Subcommand
  settings : Settings
deriving DecidableEq, Repr

/-- What was read on one level. -/
structure Level where
  settings : Settings := {}
  /-- The flags that were given. -/
  given : List Flag := []
  /-- A flag whose value was not looked at, and the value if there is one. -/
  pending : Option (Flag × Option String) := none
deriving DecidableEq, Repr

namespace Level

/-- Stores a value that was given for a flag. -/
def accept (flag : Flag) (value : Option String) (level : Level) : Except UsageFault Level := do
  let some value := value | .error (.missingValue flag)
  let before := level.given.contains flag
  if before && flag ≠ .ignoredNamespaces then .error (.repeated flag)
  else
    return {
      settings := ← level.settings.store flag before value
      given := flag :: level.given
      pending := none }

/-- Looks at the pending value. -/
def settle (level : Level) : Except UsageFault Level :=
  match level.pending with
  | none => .ok level
  | some (flag, value) => level.accept flag value

/-- Stores the value of an environment variable for a flag that was not given. -/
def inherit (environment : String → Option String) (level : Level) (flag : Flag) :
    Except UsageFault Level :=
  if level.given.contains flag then .ok level
  else
    match environment flag.environmentName with
    | none => .ok level
    | some value => do
        return { level with settings := ← level.settings.store flag false value }

/-- The end of the level. -/
def finish (environment : String → Option String) (level : Level) : Except UsageFault Level := do
  Flag.all.foldlM (inherit environment) (← level.settle)

/-- The settings of an outer level with those of the inner level that win over them. -/
def merge (outer inner : Level) : Settings :=
  Flag.all.foldl
    (fun settings flag =>
      if outer.given.contains flag && !inner.given.contains flag then
        Settings.take flag settings outer.settings
      else settings)
    inner.settings

end Level

/-- An argument by its form. -/
inductive Argument where
  | separator
  | long (name : String) (value : Option String)
  | short (letters : List Char)
  | word (text : String)
deriving DecidableEq, Repr

def Argument.ofText (text : String) : Argument :=
  match text.toList with
  | ['-', '-'] => .separator
  | '-' :: '-' :: rest =>
      let name := String.ofList (rest.takeWhile (· ≠ '='))
      match rest.dropWhile (· ≠ '=') with
      | [] => .long name none
      | _ :: value => .long name (some (String.ofList value))
  | ['-'] => .word text
  | '-' :: letters => .short letters
  | _ => .word text

/-- The topic of a level. -/
def topicOf : Option Subcommand → Topic
  | none => .program
  | some command => .subcommand command

def stopWith {α : Type} (result : Except UsageFault α) : Except Stop α :=
  result.mapError .fault

/-- Fails for a long flag that takes no value. -/
def longSwitch (level : Level) (name : String) (value : Option String) (stop : Stop) :
    Except Stop Level :=
  match value with
  | some value => .error (.fault (.unwantedValue ("--" ++ name) value))
  | none => do
      let _ ← stopWith level.settle
      .error stop

def longFlag (command : Option Subcommand) (level : Level) (name : String)
    (value : Option String) : Except Stop Level :=
  match Flag.ofName? name with
  | some flag => do
      let level ← stopWith level.settle
      match value with
      | some value => stopWith (level.accept flag (some value))
      | none => return { level with pending := some (flag, none) }
  | none =>
      if name = "help" then longSwitch level name value (.help (topicOf command) true)
      else if name = "version" ∧ command = none then longSwitch level name value .version
      else .error (.fault (.unknownArgument ("--" ++ name)))

/-- A group of letters: the first one decides. -/
def shortFlags (command : Option Subcommand) (level : Level) : List Char → Except Stop Level
  | 'h' :: _ => do
      let _ ← stopWith level.settle
      .error (.help (topicOf command) false)
  | 'V' :: _ =>
      if command = none then do
        let _ ← stopWith level.settle
        .error .version
      else .error (.fault (.unknownArgument "-V"))
  | letters => .error (.fault (.unknownArgument (String.ofList ('-' :: letters.take 1))))

/-- Reads the arguments of a subcommand. -/
def readInner (command : Subcommand) (level : Level) : List String → Except Stop Level
  | [] => .ok level
  | argument :: rest =>
      match Argument.ofText argument with
      | .separator =>
          match rest with
          | [] => .ok level
          | stray :: _ => .error (.fault (.unknownArgument stray))
      | .long name value => do
          readInner command (← longFlag (some command) level name value) rest
      | .short letters => do
          readInner command (← shortFlags (some command) level letters) rest
      | .word text =>
          match level.pending with
          | some (flag, none) =>
              readInner command { level with pending := some (flag, some text) } rest
          | _ => .error (.fault (.unknownArgument text))

/-- The page of help that is asked for by name. -/
def helpStop : List String → Stop
  | [] => .help .program true
  | name :: rest =>
      match Subcommand.ofName? name, rest with
      | some command, [] => .help (.subcommand command) true
      | some _, stray :: _ => .fault (.unknownSubcommand stray)
      | none, _ =>
          if name = "help" then
            match rest with
            | [] => .help .help true
            | stray :: _ => .fault (.unknownSubcommand stray)
          else .fault (.unknownSubcommand name)

/-- An argument behind the separator. -/
def behindSeparator (text : String) : UsageFault :=
  if text = "help" ∨ (Subcommand.ofName? text).isSome then .unknownArgument text
  else .unknownSubcommand text

/-- Reads the arguments of the program up to a subcommand; gives the subcommand and what stands
behind it. -/
def readOuter (level : Level) :
    List String → Except Stop (Level × Option (Subcommand × List String))
  | [] => .ok (level, none)
  | argument :: rest =>
      match Argument.ofText argument with
      | .separator =>
          match rest with
          | [] => .ok (level, none)
          | stray :: _ => .error (.fault (behindSeparator stray))
      | .long name value => do readOuter (← longFlag none level name value) rest
      | .short letters => do readOuter (← shortFlags none level letters) rest
      | .word text =>
          match level.pending with
          | some (flag, none) => readOuter { level with pending := some (flag, some text) } rest
          | _ =>
              if text = "help" then .error (helpStop rest)
              else
                match Subcommand.ofName? text with
                | some command => .ok (level, some (command, rest))
                | none => .error (.fault (.unknownSubcommand text))

/-- Reads a command line in an environment. -/
def read (environment : String → Option String) (arguments : List String) :
    Except Stop Invocation := do
  match ← readOuter {} arguments with
  | (outer, none) =>
      let outer ← stopWith (outer.finish environment)
      return ⟨none, outer.settings⟩
  | (outer, some (command, rest)) =>
      let inner ← readInner command {} rest
      let inner ← stopWith (inner.finish environment)
      let outer ← stopWith (outer.finish environment)
      return ⟨some command, outer.merge inner⟩

end AvailabilityGate.CommandLine
