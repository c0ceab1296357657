import AvailabilityGate.Json.Basic

/-!
Owns JSON text as it is met by a reader that goes through it once from the front: members in the
order they are written, repeated names kept, and marks where the text stops being JSON.

A reader looks at the parts of a document from left to right and stops at the first part that it
cannot use, be it for its type or because the text breaks off there. So a document keeps, behind
each container, the fault that ends it, and in place of a value or a name the fault that spoils it.
-/

namespace AvailabilityGate

/-- Ways in which a text fails to be JSON. -/
inductive SyntaxFault where
  | endOfValue
  | endOfWord
  | endOfNumber
  | endOfArray
  | endOfObject
  | endOfString
  | expectedValue
  | expectedWord
  | expectedColon
  | expectedItemEnd
  | expectedMemberEnd
  | nameNotString
  | trailingComma
  | trailingText
  | invalidNumber
  | numberOutOfRange
  | invalidEscape
  | loneSurrogate
  | unfinishedSurrogate
  | controlCharacter
  | tooDeep
deriving DecidableEq, Repr

def SyntaxFault.message : SyntaxFault → String
  | .endOfValue => "EOF while parsing a value"
  | .endOfWord => "EOF while parsing a value"
  | .endOfNumber => "EOF while parsing a value"
  | .endOfArray => "EOF while parsing a list"
  | .endOfObject => "EOF while parsing an object"
  | .endOfString => "EOF while parsing a string"
  | .expectedValue => "expected value"
  | .expectedWord => "expected ident"
  | .expectedColon => "expected `:`"
  | .expectedItemEnd => "expected `,` or `]`"
  | .expectedMemberEnd => "expected `,` or `\x7d`"
  | .nameNotString => "key must be a string"
  | .trailingComma => "trailing comma"
  | .trailingText => "trailing characters"
  | .invalidNumber => "invalid number"
  | .numberOutOfRange => "number out of range"
  | .invalidEscape => "invalid escape"
  | .loneSurrogate => "lone leading surrogate in hex escape"
  | .unfinishedSurrogate => "unexpected end of hex escape"
  | .controlCharacter =>
      "control character (\\u0000-\\u001F) found while parsing a string"
  | .tooDeep => "recursion limit exceeded"

/-- The name of a member, or the fault for which it can be passed over but not used. -/
abbrev MemberName := Except SyntaxFault String

/-- JSON text, read as far as it goes. -/
inductive Document where
  | null
  | bool (value : Bool)
  | int (value : Int)
  | float (value : Float)
  | str (value : String)
  /-- The items, and the fault that stands where the next item or the end should be. -/
  | arr (items : List Document) (ending : Option SyntaxFault)
  /-- The members, and the fault that stands where the next name or the end should be. -/
  | obj (members : List (MemberName × Document)) (ending : Option SyntaxFault)
  /-- A value that can be passed over but not used. -/
  | refused (fault : SyntaxFault) (inner : Document)
  /-- The text stops being JSON here. -/
  | broken (fault : SyntaxFault)
deriving Inhabited

namespace Document

/-- Members in the order they are written. -/
abbrev Members := List (MemberName × Document)

/-- Whether this stands in place of a value behind a name without a colon. -/
def lacksColon : Document → Bool
  | .broken .expectedColon | .broken .endOfObject => true
  | _ => false

mutual

/-- The document of a value: every object by ascending name, nothing broken. -/
def ofJson : Json → Document
  | .null => .null
  | .bool value => .bool value
  | .int value => .int value
  | .float value => .float value
  | .str value => .str value
  | .arr items => .arr (ofItems items) none
  | .obj entries =>
      .obj ((Table.ofList (ofMembers entries)).entries.map fun entry => (.ok entry.1, entry.2)) none

def ofItems : List Json → List Document
  | [] => []
  | item :: rest => ofJson item :: ofItems rest

def ofMembers : List (String × Json) → List (String × Document)
  | [] => []
  | (name, value) :: rest => (name, ofJson value) :: ofMembers rest

end

end Document

end AvailabilityGate
