import AvailabilityGate.Decode.FreeForm

/-!
Owns the ways in which records are decoded.

A record is given by its field names and one function that stores a field. There are four kinds:
`strict` records refuse a repeated field and may be written as an array of their fields in
declaration order; `loose` records take the last of repeated fields, and any field may be absent or
null; `open` records keep the members that are not theirs; of `plain` records nothing is repeated,
and null is a record without fields. A missing field is reported only when every member has been
looked at.
-/

namespace AvailabilityGate.Decode

/-- A record type and the decoding of its fields. -/
structure Record (α : Type) where
  /-- What a reader expects who meets something else. -/
  title : String
  /-- The fields in declaration order. -/
  fields : List String
  /-- The fields without which there is no record. -/
  required : List String := []
  /-- The fields that an array has to reach. -/
  reached : List String := required
  /-- The record in which no field was set. -/
  empty : α
  set : String → Medium → Document → α → Except DecodeFailure α

/-- Looks at a value without keeping it. -/
def seen {α : Type} (decode : Decoder α) : Decoder Unit := fun medium document => do
  let _ ← decode medium document

/-- A record of which nothing is kept: every field with what is looked for in it. -/
def Record.checked (title : String) (looks : List (String × Decoder Unit))
    (required : List String := []) (reached : List String := required) : Record Unit where
  title
  fields := looks.map Prod.fst
  required
  reached
  empty := ()
  set name medium document _ :=
    match looks.lookup name with
    | some look => look medium document
    | none => .ok ()

namespace Record

variable {α : Type} (record : Record α)

/-- Stores the members of an object one by one; gives the record and the fields that were set. -/
def setMembers (once : Bool) (medium : Medium) :
    List String → α → Document.Members → Except DecodeFailure (α × List String)
  | seen, value, [] => .ok (value, seen)
  | seen, value, (name, document) :: rest => do
      let name ← memberName name
      if name ∈ record.fields then
        if once ∧ name ∈ seen then fail (.duplicateField name)
        else
          let value ← withinMember name document (record.set name medium document value)
          setMembers once medium (name :: seen) value rest
      else
        withinMember name document (ignore document)
        setMembers once medium seen value rest

/-- Refuses a record without one of its required fields. -/
def requireFields (seen : List String) : Except DecodeFailure Unit :=
  match record.required.find? fun name => name ∉ seen with
  | none => .ok ()
  | some name => fail (.missingField name)

/-- The record as an array of so many fields, in words. -/
def lengthText : String :=
  record.title ++ " with " ++ toString record.fields.length ++
    (if record.fields.length = 1 then " element" else " elements")

/-- What stands behind the last field of a record that is written as an array. -/
def endFields (medium : Medium) (count : Nat) (rest : List Document)
    (ending : Option SyntaxFault) : Except DecodeFailure Unit :=
  match medium, rest, ending with
  | _, [], none => .ok ()
  | .value, _, _ => fail (.wrongLength count "fewer elements in array")
  | .text, _ :: _, _ => fail (.malformed .trailingText)
  | .text, [], some .trailingComma => fail (.malformed .trailingComma)
  | .text, [], some .endOfArray => fail (.malformed .endOfArray)
  | .text, [], some _ => fail (.malformed .trailingText)

/-- Stores the items of an array as the fields in declaration order. -/
def setItems (medium : Medium) (count : Nat) (ending : Option SyntaxFault) :
    Nat → List String → α → List Document → Except DecodeFailure α
  | _, [], value, rest => do
      endFields medium count rest ending
      return value
  | index, name :: names, value, [] => do
      endItems ending
      if name ∈ record.reached then fail (.wrongLength index record.lengthText)
      else setItems medium count ending (index + 1) names value []
  | index, name :: names, value, document :: rest => do
      let value ← within (.item index) (record.set name medium document value)
      setItems medium count ending (index + 1) names value rest

/-- Stores the members of an object, each field at most once. -/
def ofMembers (medium : Medium) (members : Document.Members) (ending : Option SyntaxFault) :
    Except DecodeFailure α := do
  let (value, seen) ← record.setMembers true medium [] record.empty members
  endMembers ending
  record.requireFields seen
  return value

/-- An object with each field at most once, or null for one without members. -/
def plain : Decoder α
  | medium, .obj members ending => record.ofMembers medium members ending
  | medium, .null => record.ofMembers medium [] none
  | _, document => mismatch record.title document

/-- Each field at most once; an array stands for the fields in order. -/
def strict : Decoder α
  | medium, .obj members ending => record.ofMembers medium members ending
  | medium, .arr documents ending =>
      record.setItems medium documents.length ending 0 record.fields record.empty documents
  | _, .refused .tooDeep (.obj _ _) => fail (.malformed .tooDeep)
  | _, .refused .tooDeep (.arr _ _) => fail (.malformed .tooDeep)
  | _, document => mismatch record.title document

/-- Of a repeated field the last stands. -/
def loose : Decoder α
  | medium, .obj members ending => do
      let (value, _) ← record.setMembers false medium [] record.empty members
      endMembers ending
      return value
  | _, .refused .tooDeep (.obj _ _) => fail (.malformed .tooDeep)
  | _, document => mismatch record.title document

/-- Stores the fields of an open record; gives the record, the fields that were set, and the other
members in reverse. -/
def setKnown (medium : Medium) :
    List String → List (String × Document) → α → Document.Members →
      Except DecodeFailure (α × List String × List (String × Document))
  | seen, others, value, [] => .ok (value, seen, others)
  | seen, others, value, (name, document) :: rest => do
      let name ← memberName name
      if name ∈ record.fields then
        if name ∈ seen then fail (.duplicateField name)
        else
          let value ← withinMember name document (record.set name medium document value)
          setKnown medium (name :: seen) others value rest
      else
        let _ ← withinMember name document (json document)
        setKnown medium seen ((name, document) :: others) value rest

/-- A record with room for other members, which are kept in order. -/
def openRecord : Decoder (α × List (String × Document))
  | medium, .obj members ending => do
      let (value, seen, others) ← record.setKnown medium [] [] record.empty members
      endMembers ending
      record.requireFields seen
      return (value, others.reverse)
  | _, .refused .tooDeep (.obj _ _) => fail (.malformed .tooDeep)
  | _, document => mismatch record.title document

end Record

end AvailabilityGate.Decode
