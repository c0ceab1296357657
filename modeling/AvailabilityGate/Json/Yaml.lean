import AvailabilityGate.Json.Printer

/-!
Owns the YAML text of a JSON value in block style. The items of a list stand under the list's name
without indent; a text is written plain where that reads back, in several lines where it has
several, and else in single quotes.
-/

namespace AvailabilityGate.Json.Yaml

/-- Characters that may not start a plain text. -/
def isIndicator (c : Char) : Bool :=
  "-?:,[]\x7b\x7d#&*!|>'\"%@ ".toList.contains c || c == Char.ofNat 0x60

/-- Words that stand for something else than a text. -/
def reserved : List String :=
  ["", "~", "null", "Null", "NULL", "true", "True", "TRUE", "false", "False", "FALSE",
    "y", "Y", "yes", "Yes", "YES", "n", "N", "no", "No", "NO",
    "on", "On", "ON", "off", "Off", "OFF"]

/-- Whether a colon before a blank, or a blank before a hash, ends a plain text early. -/
def endsEarly : List Char → Bool
  | [] => false
  | [c] => c == ':' || c == ' '
  | c :: d :: rest => (c == ':' && d == ' ') || (c == ' ' && d == '#') || endsEarly (d :: rest)

def isPlain (text : String) : Bool :=
  !reserved.contains text && !text.toList.head?.any isIndicator &&
    !text.toList.head?.any Char.isDigit && !endsEarly text.toList &&
    text.toList.all fun c => 0x20 ≤ c.toNat

def singleQuoted (text : String) : String :=
  "'" ++ String.ofList (text.toList.flatMap fun c => if c = '\'' then ['\'', '\''] else [c]) ++ "'"

def blanks (count : Nat) : String :=
  String.ofList (List.replicate count ' ')

/-- A text of several lines; an empty line carries no indent. -/
def literalBlock (indent : Nat) (text : String) : String :=
  "|-" ++ String.join ((text.splitOn "\n").map fun line =>
    "\n" ++ if line = "" then "" else blanks indent ++ line)

/-- A text behind a name; its further lines are indented. -/
def textScalar (indent : Nat) (text : String) : String :=
  if text.toList.contains '\n' then literalBlock indent text
  else if isPlain text then text
  else singleQuoted text

/-- A value without parts. -/
def scalar (indent : Nat) : Json → String
  | .str text => textScalar indent text
  | .arr _ => "[]"
  | .obj _ => "\x7b\x7d"
  | value => value.compact

mutual

/-- The value behind a name, with the line break before it where it starts a new line. -/
def afterName (indent : Nat) : Json → String
  | .obj (entry :: entries) => "\n" ++ members (indent + 2) (entry :: entries)
  | .arr (item :: rest) => "\n" ++ listItems indent (item :: rest)
  | value => " " ++ scalar (indent + 2) value ++ "\n"

/-- The members of an object, one a line. -/
def members (indent : Nat) : List (String × Json) → String
  | [] => ""
  | (name, value) :: rest =>
      blanks indent ++ textScalar indent name ++ ":" ++ afterName indent value ++
        members indent rest

/-- The items of a list, each behind a dash. -/
def listItems (indent : Nat) : List Json → String
  | [] => ""
  | item :: rest => blanks indent ++ "-" ++ afterDash indent item ++ listItems indent rest

/-- The value behind a dash; the first part stands on the same line. -/
def afterDash (indent : Nat) : Json → String
  | .obj ((name, value) :: entries) =>
      " " ++ textScalar (indent + 2) name ++ ":" ++ afterName (indent + 2) value ++
        members (indent + 2) entries
  | .arr (item :: rest) =>
      " -" ++ afterDash (indent + 2) item ++ listItems (indent + 2) rest
  | value => " " ++ scalar (indent + 2) value ++ "\n"

end

/-- The value as a document. -/
def document : Json → String
  | .obj (entry :: entries) => members 0 (entry :: entries)
  | .arr (item :: rest) => listItems 0 (item :: rest)
  | value => scalar 0 value ++ "\n"

end AvailabilityGate.Json.Yaml
