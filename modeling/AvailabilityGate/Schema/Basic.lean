import AvailabilityGate.Decode.Basic

/-!
Owns schemas of JSON values, as a cluster publishes them for its types, and their JSON form.

`Valid` says which values a schema describes; it looks at the value alone and knows nothing of how
the value is decoded.
-/

namespace AvailabilityGate

/-- What a schema says about a value besides its type. -/
structure SchemaNotes where
  description : Option String := none
  nullable : Bool := false
  /-- The value that stands in when there is none. -/
  substitute : Option Json := none
  title : Option String := none

inductive Schema where
  | int32 (notes : SchemaNotes)
  | bool (notes : SchemaNotes)
  | text (notes : SchemaNotes)
  /-- Any whole number or any text. -/
  | intOrText (notes : SchemaNotes)
  | list (notes : SchemaNotes) (item : Schema)
  /-- An object whose members are all of one type. -/
  | table (notes : SchemaNotes) (value : Schema)
  /-- An object with known members; other members may be there too. -/
  | record (notes : SchemaNotes) (fields : List (String × Schema)) (required : List String)

namespace Schema

def notes : Schema → SchemaNotes
  | .int32 notes | .bool notes | .text notes | .intOrText notes => notes
  | .list notes _ | .table notes _ | .record notes _ _ => notes

/-- A null where the schema allows it. -/
def AllowsNull (schema : Schema) (value : Json) : Prop :=
  schema.notes.nullable = true ∧ value = .null

mutual

/-- The values that a schema describes. -/
def Valid : Schema → Json → Prop
  | .int32 notes, value =>
      AllowsNull (.int32 notes) value ∨ ∃ number, value = .int number ∧ Decode.FitsInt32 number
  | .bool notes, value => AllowsNull (.bool notes) value ∨ ∃ truth, value = .bool truth
  | .text notes, value => AllowsNull (.text notes) value ∨ ∃ text, value = .str text
  | .intOrText notes, value =>
      AllowsNull (.intOrText notes) value ∨ (∃ number, value = .int number) ∨
        ∃ text, value = .str text
  | .list notes item, value =>
      AllowsNull (.list notes item) value ∨
        ∃ items, value = .arr items ∧ ∀ part ∈ items, Valid item part
  | .table notes part, value =>
      AllowsNull (.table notes part) value ∨
        ∃ members, value = .obj members ∧
          ∀ entry ∈ Json.members members, Valid part entry.2
  | .record notes fields required, value =>
      AllowsNull (.record notes fields required) value ∨
        ∃ members, value = .obj members ∧
          (∀ name ∈ required, (value.get? name).isSome) ∧ ValidFields fields value

/-- Every known member that is there is valid. -/
def ValidFields : List (String × Schema) → Json → Prop
  | [], _ => True
  | (name, schema) :: rest, value =>
      (∀ part, value.get? name = some part → Valid schema part) ∧ ValidFields rest value

end

/-- The name of a type. -/
def typeMember (name : String) : List (String × Json) :=
  [("type", .str name)]

/-- The members of an encoded schema that come before those for its parts. -/
def openingMembers (notes : SchemaNotes) : List (String × Json) :=
  Json.optional "default" id notes.substitute ++
    Json.optional "description" .str notes.description

def nullableMember (notes : SchemaNotes) : List (String × Json) :=
  if notes.nullable then [("nullable", .bool true)] else []

def requiredMember (required : List String) : List (String × Json) :=
  if required.isEmpty then [] else [("required", .arr (required.map .str))]

mutual

/-- The schema as JSON, its members by ascending name. -/
def encode : Schema → Json
  | .int32 notes =>
      .obj (openingMembers notes ++ [("format", .str "int32")] ++ nullableMember notes ++
        typeMember "integer")
  | .bool notes => .obj (openingMembers notes ++ nullableMember notes ++ typeMember "boolean")
  | .text notes => .obj (openingMembers notes ++ nullableMember notes ++ typeMember "string")
  | .intOrText notes =>
      .obj (openingMembers notes ++ nullableMember notes ++
        [("x-kubernetes-int-or-string", .bool true)])
  | .list notes item =>
      .obj (openingMembers notes ++ [("items", encode item)] ++ nullableMember notes ++
        typeMember "array")
  | .table notes value =>
      .obj (("additionalProperties", encode value) :: openingMembers notes ++
        nullableMember notes ++ typeMember "object")
  | .record notes fields required =>
      .obj (openingMembers notes ++ nullableMember notes ++
        [("properties", .obj (encodeFields fields))] ++ requiredMember required ++
        Json.optional "title" .str notes.title ++ typeMember "object")

def encodeFields : List (String × Schema) → List (String × Json)
  | [] => []
  | (name, schema) :: rest => (name, encode schema) :: encodeFields rest

end

end Schema

end AvailabilityGate
