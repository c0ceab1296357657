import AvailabilityGate.Admission.Response
import AvailabilityGate.Http.Message
import AvailabilityGate.Proofs.Decode.Intact

/-!
Owns what a reader finds in a reply that carries an admission response: the parts of its JSON, each
by the names that lead to it. The parts of the status stand only where they are not empty.
-/

namespace AvailabilityGate

/-- The JSON in a body, which may be a text that is JSON. -/
def Http.Body.json? : Http.Body → Option Json
  | .text content => (Decode.ofText (fun _ document => Decode.json document) content).toOption
  | .json value => some value

/-- The part of a reply to which the names lead, one member after the other. -/
def Http.Reply.part? (reply : Http.Reply) (names : List String) : Option Json := do
  names.foldlM (fun value name => value.get? name) (← reply.body.json?)

/-- The reply holds a review whose response admits the request. -/
def Http.Reply.Admits (reply : Http.Reply) : Prop :=
  reply.part? ["response", "allowed"] = some (.bool true)

theorem Http.Reply.not_admits_of_text {reply : Http.Reply} {text : String}
    (body : reply.body = .text text) (other : ¬ Document.IsJson text) : ¬ reply.Admits := by
  have unread : reply.body.json? = none := by
    rw [body, Body.json?]
    cases read : Decode.ofText (fun _ document => Decode.json document) text with
    | error failure => rfl
    | ok value => exact absurd (Decode.thorough_json.isJson read) other
  rw [Admits, part?, unread]
  simp

namespace Admission

namespace ResponseStatus

theorem lookup_textMember (name text other : String) :
    (textMember name text).reverse.lookup other =
      if other = name ∧ text ≠ "" then some (.str text) else none := by
  unfold textMember
  split
  · next empty => simp [empty]
  · next nonempty => simp [lookup_cons_eq_ite, nonempty]

theorem get?_encode (status : ResponseStatus) (name : String) :
    status.encode.get? name =
      (((if name = "status" ∧ status.status ≠ "" then some (.str status.status) else none).or
        (if name = "reason" ∧ status.reason ≠ "" then some (.str status.reason) else none)).or
        (if name = "message" ∧ status.message ≠ "" then some (.str status.message) else none)).or
        (if name = "code" ∧ status.code ≠ 0 then some (.int status.code) else none) := by
  have code : (if status.code = 0 then [] else [("code", Json.int status.code)]).reverse.lookup
      name = if name = "code" ∧ status.code ≠ 0 then some (.int status.code) else none := by
    split
    · next zero => simp [zero]
    · next nonzero => simp [lookup_cons_eq_ite, nonzero]
  rw [encode, Json.get?_obj]
  simp only [List.reverse_append, List.lookup_append, lookup_textMember, code, Option.or_assoc]

end ResponseStatus

namespace Response

variable (code : Nat) (response : Response)

theorem part?_kind : (Http.Reply.json code response.encode).part? ["kind"] =
    some (.str response.types.kind) := by
  simp [Http.Reply.part?, Http.Body.json?, Http.Reply.json, encode, TypeMeta.encode, Json.get?_obj,
    lookup_cons_eq_ite]

theorem part?_uid : (Http.Reply.json code response.encode).part? ["response", "uid"] =
    some (.str response.uid) := by
  simp [Http.Reply.part?, Http.Body.json?, Http.Reply.json, encode, TypeMeta.encode, Json.get?_obj,
    lookup_cons_eq_ite]

theorem part?_allowed : (Http.Reply.json code response.encode).part? ["response", "allowed"] =
    some (.bool response.allowed) := by
  simp [Http.Reply.part?, Http.Body.json?, Http.Reply.json, encode, TypeMeta.encode, Json.get?_obj,
    lookup_cons_eq_ite]

theorem part?_status (name : String) :
    (Http.Reply.json code response.encode).part? ["response", "status", name] =
      response.status.encode.get? name := by
  simp [Http.Reply.part?, Http.Body.json?, Http.Reply.json, encode, TypeMeta.encode, Json.get?_obj,
    lookup_cons_eq_ite]

theorem admits_iff :
    (Http.Reply.json code response.encode).Admits ↔ response.allowed = true := by
  unfold Http.Reply.Admits
  rw [part?_allowed]
  simp

end Response

end Admission

end AvailabilityGate
