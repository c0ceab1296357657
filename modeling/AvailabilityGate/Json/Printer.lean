import AvailabilityGate.Decimal.Shortest
import AvailabilityGate.Json.Basic

/-!
Owns the compact text of a JSON value: no blanks, members in the order of the value, and in a
string only what must be escaped.
-/

namespace AvailabilityGate.Json

/-- Numbers with a fraction are written without an exponent from `1e-5` up to `1e16`. -/
def floatLayout : Decimal.Layout where
  plainFrom := -5
  plainBelow := 16
  plusSign := true
  exponentWidth := 1

/-- One character inside a string. -/
def escapedChar (c : Char) : List Char :=
  match c with
  | '"' => ['\\', '"']
  | '\\' => ['\\', '\\']
  | '\x08' => ['\\', 'b']
  | '\x0c' => ['\\', 'f']
  | '\n' => ['\\', 'n']
  | '\r' => ['\\', 'r']
  | '\t' => ['\\', 't']
  | c =>
      if c.toNat < 0x20 then
        ['\\', 'u', '0', '0', Nat.digitChar (c.toNat / 16), Nat.digitChar (c.toNat % 16)]
      else [c]

def escaped (text : String) : String :=
  String.ofList ('"' :: text.toList.flatMap escapedChar ++ ['"'])

mutual

/-- The value on one line. -/
def compact : Json → String
  | .null => "null"
  | .bool true => "true"
  | .bool false => "false"
  | .int value => toString value
  | .float value => floatLayout.text value
  | .str value => escaped value
  | .arr items => "[" ++ ",".intercalate (compactItems items) ++ "]"
  | .obj entries => "\x7b" ++ ",".intercalate (compactMembers entries) ++ "\x7d"

def compactItems : List Json → List String
  | [] => []
  | item :: rest => compact item :: compactItems rest

def compactMembers : List (String × Json) → List String
  | [] => []
  | (name, value) :: rest => (escaped name ++ ":" ++ compact value) :: compactMembers rest

end

end AvailabilityGate.Json
