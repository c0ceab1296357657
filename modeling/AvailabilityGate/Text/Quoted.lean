import AvailabilityGate.Text.Unprintable

/-!
Owns the quoted form of a text in messages and logs: double quotes around it, a backslash before
a quote or a backslash, short escapes for the usual controls, and `\u` with the code point in
braces for every other character that has no visible form.
-/

namespace AvailabilityGate.Text

/-- One character inside a quoted text. -/
def quotedChar (c : Char) : List Char :=
  match c with
  | '"' => ['\\', '"']
  | '\\' => ['\\', '\\']
  | '\n' => ['\\', 'n']
  | '\r' => ['\\', 'r']
  | '\t' => ['\\', 't']
  | '\x00' => ['\\', '0']
  | c =>
      if isUnprintable c then
        ['\\', 'u', '\x7b'] ++ Nat.toDigits 16 c.toNat ++ ['\x7d']
      else [c]

/-- The text in double quotes, with everything that could be misread escaped. -/
def quoted (text : String) : String :=
  String.ofList ('"' :: text.toList.flatMap quotedChar ++ ['"'])

/-- An optional text: its quoted form, or a word for its absence. -/
def quotedOption : Option String → String
  | none => "None"
  | some text => "Some(" ++ quoted text ++ ")"

end AvailabilityGate.Text
