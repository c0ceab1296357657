import AvailabilityGate.Decode.Failure
import AvailabilityGate.Document.Reader

/-!
Owns the decoders of plain values, of lists and of tables. The first failure in the order of the
document wins.

Does not own records, variants or free-form JSON; see the modules beside this one.
-/

namespace AvailabilityGate

/-- What a document was read from. -/
inductive Medium where
  /-- Text that is decoded while it is read. -/
  | text
  /-- A value in memory. -/
  | value
deriving DecidableEq, Repr

abbrev Decoder (α : Type) := Medium → Document → Except DecodeFailure α

namespace Decode

def fail {α : Type} (cause : DecodeCause) : Except DecodeFailure α :=
  .error { cause }

def within {α : Type} (step : PathStep) : Except DecodeFailure α → Except DecodeFailure α
  | .ok value => .ok value
  | .error failure => .error (failure.within step)

/-- What stands in a document, as far as a reader looks that wanted something else. -/
def found : Document → Except SyntaxFault Found
  | .null => .ok .null
  | .bool value => .ok (.bool value)
  | .int value => .ok (.int value)
  | .float value => .ok (.float value)
  | .str value => .ok (.str value)
  | .arr _ _ => .ok .array
  | .obj _ _ => .ok .object
  | .refused .tooDeep inner => found inner
  | .refused fault _ => .error fault
  | .broken fault => .error fault

def mismatch {α : Type} (expected : String) (document : Document) : Except DecodeFailure α :=
  match found document with
  | .ok other => fail (.wrongType other expected)
  | .error fault => fail (.malformed fault)

def bool : Decoder Bool
  | _, .bool value => .ok value
  | _, document => mismatch "a boolean" document

def text : Decoder String
  | _, .str value => .ok value
  | _, document => mismatch "a string" document

/-- Whether a whole number fits 32 bits with sign. -/
def FitsInt32 (value : Int) : Prop :=
  -2147483648 ≤ value ∧ value ≤ 2147483647

instance (value : Int) : Decidable (FitsInt32 value) :=
  inferInstanceAs (Decidable (_ ∧ _))

def int32 : Decoder Int32
  | _, .int value =>
      if FitsInt32 value then .ok (Int32.ofInt value)
      else fail (.wrongValue (.int value) "i32")
  | _, document => mismatch "i32" document

/-- Whether a whole number fits 64 bits with sign. -/
def FitsInt64 (value : Int) : Prop :=
  -9223372036854775808 ≤ value ∧ value ≤ 9223372036854775807

instance (value : Int) : Decidable (FitsInt64 value) :=
  inferInstanceAs (Decidable (_ ∧ _))

def int64 : Decoder Int64
  | _, .int value =>
      if FitsInt64 value then .ok (Int64.ofInt value)
      else fail (.wrongValue (.int value) "i64")
  | _, document => mismatch "i64" document

/-- A moment, given as a text. -/
def time : Decoder Time
  | _, .str value =>
      match Time.read value with
      | .ok time => .ok time
      | .error fault => fail (.notTime fault)
  | _, document => mismatch "an RFC 3339 formatted date and time string" document

/-- A whole number without sign that is at most `limit`. -/
def natural (limit : Nat) (expected : String) : Decoder Nat
  | _, .int value =>
      if 0 ≤ value ∧ value ≤ limit then .ok value.toNat
      else fail (.wrongValue (.int value) expected)
  | _, document => mismatch expected document

def optional {α : Type} (decode : Decoder α) : Decoder (Option α)
  | _, .null => .ok none
  | medium, document => some <$> decode medium document

/-- The fault behind the last item of an array. -/
def endItems : Option SyntaxFault → Except DecodeFailure Unit
  | none => .ok ()
  | some fault => fail (.malformed fault)

/-- Decodes the items of an array, counted from `index`. -/
def items {α : Type} (decode : Document → Except DecodeFailure α) (ending : Option SyntaxFault) :
    Nat → List Document → Except DecodeFailure (List α)
  | _, [] => do
      endItems ending
      return []
  | index, document :: rest => do
      let value ← within (.item index) (decode document)
      let values ← items decode ending (index + 1) rest
      return value :: values

def list {α : Type} (decode : Decoder α) : Decoder (List α)
  | medium, .arr documents ending => items (decode medium) ending 0 documents
  | _, .refused .tooDeep (.arr _ _) => fail (.malformed .tooDeep)
  | _, document => mismatch "a sequence" document

/-- The fault behind the last member of an object. -/
def endMembers : Option SyntaxFault → Except DecodeFailure Unit
  | none => .ok ()
  | some fault => within .unnamed (fail (.malformed fault))

/-- The name of a member that is used. -/
def memberName : MemberName → Except DecodeFailure String
  | .ok name => .ok name
  | .error fault => within .unnamed (fail (.malformed fault))

/-- The place of a member's value; without a colon there is none but that of the object. -/
def withinMember {α : Type} (name : String) (document : Document)
    (result : Except DecodeFailure α) : Except DecodeFailure α :=
  if document.lacksColon then result else within (.member name) result

/-- Decodes the members of an object into a table; of a repeated name the last stands. -/
def entries {α : Type} (decode : Document → Except DecodeFailure α) :
    Table α → Document.Members → Except DecodeFailure (Table α)
  | table, [] => .ok table
  | table, (name, document) :: rest => do
      let name ← memberName name
      let value ← withinMember name document (decode document)
      entries decode (table.insert name value) rest

def table {α : Type} (decode : Decoder α) : Decoder (Table α)
  | medium, .obj members ending => do
      let table ← entries (decode medium) .empty members
      endMembers ending
      return table
  | _, .refused .tooDeep (.obj _ _) => fail (.malformed .tooDeep)
  | _, document => mismatch "a map" document

/-- Decodes a value in memory. -/
def ofJson {α : Type} (decode : Decoder α) (value : Json) : Except DecodeFailure α :=
  decode .value (.ofJson value)

/-- Decodes a text; more than blanks behind the value is a fault of the text. -/
def ofText {α : Type} (decode : Decoder α) (text : String) : Except DecodeFailure α := do
  let reading := Document.read text
  let value ← decode .text reading.document
  if reading.trailing then fail (.malformed .trailingText) else return value

end Decode

end AvailabilityGate
