import AvailabilityGate.Document.Token

/-!
Owns the reading of JSON text into a document.

Tokens are taken one by one onto a stack of open containers. The reader stops when the outermost
value is complete, or at the first token that cannot follow; then it closes what is open, with the
fault where it was met. `readTokens` recurses on the tokens, so reading ends with the text.
-/

namespace AvailabilityGate.Document

/-- Containers deeper than this can be passed over but not used. -/
def depthLimit : Nat := 127

/-- An open container, its parts in reverse; an object with the name that is being read. -/
inductive Frame where
  | array (items : List Document)
  | object (members : Members) (name : MemberName)

/-- What must come next. -/
inductive Phase where
  | start
  | firstItem
  | item
  | itemEnd
  | firstName
  | name
  | colon
  | value
  | memberEnd

/-- A container, refused if it lies inside too many others. -/
def limited (outside : List Frame) (container : Document) : Document :=
  if (outside.drop (depthLimit - 1)).isEmpty then container else .refused .tooDeep container

def Frame.close (ending : Option SyntaxFault) : Frame → Document
  | .array items => .arr items.reverse ending
  | .object members _ => .obj members.reverse ending

def Frame.put (value : Document) : Frame → Frame
  | .array items => .array (value :: items)
  | .object members name => .object ((name, value) :: members) name

/-- Closes every open container around a value. -/
def closeAll (value : Document) : List Frame → Document
  | [] => value
  | frame :: outside => closeAll (limited outside ((frame.put value).close none)) outside

inductive ReadStep where
  | more (phase : Phase) (stack : List Frame)
  | done (document : Document)

/-- A value is complete. -/
def complete (value : Document) : List Frame → ReadStep
  | [] => .done value
  | frame :: outside =>
      let phase := match frame with
        | .array _ => Phase.itemEnd
        | .object _ _ => Phase.memberEnd
      .more phase (frame.put value :: outside)

/-- The innermost container ends here. -/
def close : List Frame → ReadStep
  | [] => .done (.broken .expectedValue)
  | frame :: outside => complete (limited outside (frame.close none)) outside

/-- A fault in place of a value. -/
def stopAtValue (fault : SyntaxFault) (stack : List Frame) : Document :=
  closeAll (.broken fault) stack

/-- A fault where the next part or the end of the innermost container should be. -/
def stopAtEnding (fault : SyntaxFault) : List Frame → Document
  | [] => .broken fault
  | frame :: outside => closeAll (limited outside (frame.close (some fault))) outside

/-- A token in place of a value. -/
def valueStep (stack : List Frame) : Token → ReadStep
  | .openArray => .more .firstItem (.array [] :: stack)
  | .openObject => .more .firstName (.object [] (.ok "") :: stack)
  | .quote value => complete value stack
  | .scalar value => complete value stack
  | _ => .done (stopAtValue .expectedValue stack)

/-- A string in place of a name. -/
def nameStep (value : Document) (stack : List Frame) : ReadStep :=
  match value, stack with
  | .str name, .object members _ :: outside => .more .colon (.object members (.ok name) :: outside)
  | .refused fault (.broken cause), .object members _ :: outside =>
      .done (stopAtValue cause (.object members (.error fault) :: outside))
  | .refused fault _, .object members _ :: outside =>
      .more .colon (.object members (.error fault) :: outside)
  | .broken fault, stack => .done (stopAtEnding fault stack)
  | _, stack => .done (stopAtEnding .nameNotString stack)

def readStep : Phase → List Frame → Token → ReadStep
  | .firstItem, stack, .closeArray => close stack
  | .item, stack, .closeArray => .done (stopAtEnding .trailingComma stack)
  | .itemEnd, stack, .closeArray => close stack
  | .itemEnd, stack, .comma => .more .item stack
  | .itemEnd, stack, _ => .done (stopAtEnding .expectedItemEnd stack)
  | .firstName, stack, .closeObject => close stack
  | .firstName, stack, .quote value => nameStep value stack
  | .firstName, stack, _ => .done (stopAtEnding .nameNotString stack)
  | .name, stack, .quote value => nameStep value stack
  | .name, stack, .closeObject => .done (stopAtEnding .trailingComma stack)
  | .name, stack, _ => .done (stopAtEnding .nameNotString stack)
  | .colon, stack, .colon => .more .value stack
  | .colon, stack, _ => .done (stopAtValue .expectedColon stack)
  | .memberEnd, stack, .closeObject => close stack
  | .memberEnd, stack, .comma => .more .name stack
  | .memberEnd, stack, _ => .done (stopAtEnding .expectedMemberEnd stack)
  | .start, stack, token => valueStep stack token
  | .firstItem, stack, token => valueStep stack token
  | .item, stack, token => valueStep stack token
  | .value, stack, token => valueStep stack token

/-- The text ends here. -/
def readEnd : Phase → List Frame → Document
  | .start, stack => stopAtValue .endOfValue stack
  | .firstItem, stack => stopAtEnding .endOfArray stack
  | .item, stack => stopAtEnding .endOfValue stack
  | .itemEnd, stack => stopAtEnding .endOfArray stack
  | .firstName, stack => stopAtEnding .endOfObject stack
  | .name, stack => stopAtEnding .endOfValue stack
  | .colon, stack => stopAtValue .endOfObject stack
  | .value, stack => stopAtValue .endOfValue stack
  | .memberEnd, stack => stopAtEnding .endOfObject stack

/-- The document of the first value, and the tokens behind it. -/
def readTokens : Phase → List Frame → List Token → Document × List Token
  | phase, stack, [] => (readEnd phase stack, [])
  | phase, stack, token :: rest =>
      match readStep phase stack token with
      | .more phase stack => readTokens phase stack rest
      | .done document => (document, rest)

/-- The document of a text, and whether more than blanks stands behind it. -/
structure Reading where
  document : Document
  trailing : Bool

def read (text : String) : Reading :=
  let (document, rest) := readTokens .start [] (tokens text.toList)
  ⟨document, !rest.isEmpty⟩

end AvailabilityGate.Document
