import AvailabilityGate.Decode.Basic

/-!
Owns the two ways of going through a document without knowing its type: free-form JSON keeps all of
it, and passing over keeps nothing. Who only passes over does not meet the faults of values that can
be passed over but not used.

Main statement: what is kept has every object by ascending name.
-/

namespace AvailabilityGate

namespace Decode

mutual

/-- Free-form JSON: of a repeated name the last member stands. -/
def json : Document → Except DecodeFailure Json
  | .null => .ok .null
  | .bool value => .ok (.bool value)
  | .int value => .ok (.int value)
  | .float value => .ok (.float value)
  | .str value => .ok (.str value)
  | .arr documents ending => do return .arr (← jsonItems ending 0 documents)
  | .obj members ending => do
      let members ← jsonMembers ending members
      return .obj (Json.members members)
  | .refused fault _ => fail (.malformed fault)
  | .broken fault => fail (.malformed fault)

def jsonItems (ending : Option SyntaxFault) :
    Nat → List Document → Except DecodeFailure (List Json)
  | _, [] => do
      endItems ending
      return []
  | index, document :: rest => do
      let value ← within (.item index) (json document)
      let values ← jsonItems ending (index + 1) rest
      return value :: values

def jsonMembers (ending : Option SyntaxFault) :
    Document.Members → Except DecodeFailure (List (String × Json))
  | [] => do
      endMembers ending
      return []
  | (name, document) :: rest => do
      let name ← memberName name
      let value ← withinMember name document (json document)
      let values ← jsonMembers ending rest
      return (name, value) :: values

end

/-! ### What is kept -/

mutual

theorem json_settled {document : Document} {value : Json} (read : json document = .ok value) :
    value.Settled := by
  match document with
  | .null | .bool _ | .int _ | .float _ | .str _ =>
      rw [json] at read
      cases read
      constructor
  | .arr documents ending =>
      rw [json] at read
      cases items : jsonItems ending 0 documents with
      | error failure => simp [items, bind, Except.bind] at read
      | ok values =>
          rw [items] at read
          cases read
          exact .arr (jsonItems_settled items)
  | .obj members ending =>
      rw [json] at read
      cases entries : jsonMembers ending members with
      | error failure => simp [entries, bind, Except.bind] at read
      | ok values =>
          rw [entries] at read
          cases read
          exact Json.settled_members (jsonMembers_settled entries)
  | .refused _ _ | .broken _ => simp [json, fail] at read

theorem jsonItems_settled {ending : Option SyntaxFault} {index : Nat} {documents : List Document}
    {values : List Json} (read : jsonItems ending index documents = .ok values) :
    ∀ value ∈ values, value.Settled := by
  match documents with
  | [] =>
      rw [jsonItems] at read
      cases ended : endItems ending with
      | error failure => simp [ended, bind, Except.bind] at read
      | ok _ =>
          rw [ended] at read
          cases read
          simp
  | head :: tail =>
      rw [jsonItems] at read
      cases first : json head with
      | error failure => simp [first, within, bind, Except.bind] at read
      | ok value =>
          cases others : jsonItems ending (index + 1) tail with
          | error failure => simp [first, others, within, bind, Except.bind] at read
          | ok rest =>
              rw [first, others] at read
              cases read
              exact List.forall_mem_cons.mpr ⟨json_settled first, jsonItems_settled others⟩

theorem jsonMembers_settled {ending : Option SyntaxFault} {members : Document.Members}
    {values : List (String × Json)} (read : jsonMembers ending members = .ok values) :
    ∀ entry ∈ values, entry.2.Settled := by
  match members with
  | [] =>
      rw [jsonMembers] at read
      cases ended : endMembers ending with
      | error failure => simp [ended, bind, Except.bind] at read
      | ok _ =>
          rw [ended] at read
          cases read
          simp
  | (named, document) :: tail =>
      rw [jsonMembers] at read
      cases named with
      | error fault => simp [memberName, fail, within, bind, Except.bind] at read
      | ok name =>
          cases first : json document with
          | error failure =>
              cases colon : document.lacksColon <;>
                simp [memberName, first, withinMember, colon, within, bind, Except.bind] at read
          | ok value =>
              cases others : jsonMembers ending tail with
              | error failure =>
                  simp [memberName, first, others, withinMember, within, bind, Except.bind] at read
              | ok rest =>
                  simp only [memberName, first, others, withinMember, within, ite_self, bind,
                    Except.bind] at read
                  cases read
                  exact List.forall_mem_cons.mpr
                    ⟨json_settled first, jsonMembers_settled others⟩

end

end Decode

/-- JSON as it is kept by somebody who does not know its type. -/
structure FreeForm where
  value : Json
  settled : value.Settled
deriving DecidableEq

namespace FreeForm

def null : FreeForm :=
  ⟨.null, .null⟩

def decode : Decoder FreeForm := fun _ document =>
  match read : Decode.json document with
  | .ok value => .ok ⟨value, Decode.json_settled read⟩
  | .error failure => .error failure

end FreeForm

namespace Decode

/-! ### What is passed over -/

/-- The fault that ends an array or an object, as a reader meets it that only passes over: it
looks for the next part before it looks for the end. -/
def passedEnding (ofObject : Bool) : SyntaxFault → SyntaxFault
  | .trailingComma => if ofObject then .nameNotString else .expectedValue
  | .endOfValue => if ofObject then .endOfObject else .endOfValue
  | fault => fault

mutual

/-- The fault that a reader meets who passes over a document without using it. -/
def passOver : Document → Option SyntaxFault
  | .arr documents ending => passOverItems (ending.map (passedEnding false)) documents
  | .obj members ending => passOverMembers (ending.map (passedEnding true)) members
  | .refused _ inner => passOver inner
  | .broken .endOfNumber => some .invalidNumber
  | .broken fault => some fault
  | _ => none

def passOverItems (ending : Option SyntaxFault) : List Document → Option SyntaxFault
  | [] => ending
  | document :: rest => (passOver document).orElse fun _ => passOverItems ending rest

def passOverMembers (ending : Option SyntaxFault) : Document.Members → Option SyntaxFault
  | [] => ending
  | (_, document) :: rest => (passOver document).orElse fun _ => passOverMembers ending rest

end

def ignore (document : Document) : Except DecodeFailure Unit :=
  match passOver document with
  | none => .ok ()
  | some fault => fail (.malformed fault)

end Decode

end AvailabilityGate
