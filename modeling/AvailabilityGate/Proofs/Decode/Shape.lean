import AvailabilityGate.Proofs.Decode.Fitting
import AvailabilityGate.Proofs.Manifest.Metadata
import AvailabilityGate.Shape

/-!
Owns which values are of a shape, and what may stand under the names of metadata and of selectors,
which are parts of many shapes.

Does not own what is kept of such a value.

Main statement: what is looked at passes exactly if it is of its shape, whatever spells it.
-/

namespace AvailabilityGate

open Decode

/-! ### Metadata -/

namespace OwnerReference

def typed : List (String × (Json → Prop)) :=
  [("apiVersion", NullOr IsText), ("blockOwnerDeletion", NullOr IsBool),
    ("controller", NullOr IsBool), ("kind", NullOr IsText), ("name", NullOr IsText),
    ("uid", NullOr IsText)]

theorem accepts_loose : Accepts record.loose (EachMember (FitsNamed typed)) :=
  accepts_ofFields
    (.cons (reads_text _ _ _) <| .cons (reads_optional accepts_bool) <|
      .cons (reads_optional accepts_bool) <| .cons (reads_text _ _ _) <|
      .cons (reads_text _ _ _) <| .cons (reads_text _ _ _) .nil) _ _

end OwnerReference

namespace ManagedFields

def typed : List (String × (Json → Prop)) :=
  [("apiVersion", NullOr IsText), ("fieldsType", NullOr IsText), ("fieldsV1", fun _ => True),
    ("manager", NullOr IsText), ("operation", NullOr IsText), ("subresource", NullOr IsText),
    ("time", NullOr IsTime)]

theorem accepts_loose : Accepts record.loose (EachMember (FitsNamed typed)) :=
  accepts_ofFields
    (.cons (reads_optional accepts_text) <| .cons (reads_optional accepts_text) <|
      .cons (reads_freeForm _ _ _) <| .cons (reads_optional accepts_text) <|
      .cons (reads_optional accepts_text) <| .cons (reads_optional accepts_text) <|
      .cons (reads_optional accepts_time) .nil) _ _

end ManagedFields

namespace ObjectMeta

def typed : List (String × (Json → Prop)) :=
  [("annotations", NullOr (EachMember fun _ => IsText)), ("creationTimestamp", NullOr IsTime),
    ("deletionGracePeriodSeconds", NullOr IsInt64), ("deletionTimestamp", NullOr IsTime),
    ("finalizers", NullOr (EachItem IsText)), ("generateName", NullOr IsText),
    ("generation", NullOr IsInt64), ("labels", NullOr (EachMember fun _ => IsText)),
    ("managedFields", NullOr (EachItem (EachMember (FitsNamed ManagedFields.typed)))),
    ("name", NullOr IsText), ("namespace", NullOr IsText),
    ("ownerReferences", NullOr (EachItem (EachMember (FitsNamed OwnerReference.typed)))),
    ("resourceVersion", NullOr IsText), ("selfLink", NullOr IsText), ("uid", NullOr IsText)]

/-- The value is read as metadata. -/
def Fits : Json → Prop :=
  EachMember (FitsNamed typed)

theorem accepts_decode : Accepts decode Fits :=
  accepts_ofFields
    (.cons (reads_optional accepts_text.table) <| .cons (reads_optional accepts_time) <|
      .cons (reads_optional accepts_int64) <| .cons (reads_optional accepts_time) <|
      .cons (reads_optional accepts_text.list) <| .cons (reads_optional accepts_text) <|
      .cons (reads_optional accepts_int64) <| .cons (reads_optional accepts_text.table) <|
      .cons (reads_optional ManagedFields.accepts_loose.list) <|
      .cons (reads_optional accepts_text) <| .cons (reads_optional accepts_text) <|
      .cons (reads_optional OwnerReference.accepts_loose.list) <|
      .cons (reads_optional accepts_text) <| .cons (reads_optional accepts_text) <|
      .cons (reads_optional accepts_text) .nil) _ _

theorem readableIn_iff {entries : List (String × Json)} :
    ReadableIn entries ↔
      ∀ part, (Json.obj entries).get? "metadata" = some part → Fits part :=
  forall₂_congr fun part _ => accepts_decode part (Document.spells_ofJson part)

end ObjectMeta

/-! ### Selectors -/

namespace Requirement

def typed : List (String × (Json → Prop)) :=
  [("key", NullOr IsText), ("operator", NullOr IsText), ("values", NullOr (EachItem IsText))]

theorem accepts_loose : Accepts record.loose (EachMember (FitsNamed typed)) := by
  refine Record.accepts_loose (fun name known part medium document before spells => ?_)
    fun name other part => fitsNamed_of_not_mem other part
  simp only [record, List.mem_cons, List.not_mem_nil, or_false] at known
  rcases known with rfl | rfl | rfl
  · exact (accepts_text.optional part).stores spells _
  · exact (accepts_text.optional part).stores spells _
  · exact (accepts_text.list.optional part).stores spells _

end Requirement

namespace LabelSelector

def typed : List (String × (Json → Prop)) :=
  [("matchLabels", NullOr (EachMember fun _ => IsText)),
    ("matchExpressions", NullOr (EachItem (EachMember (FitsNamed Requirement.typed))))]

/-- The value is read as a selector. -/
def Fits : Json → Prop :=
  EachMember (FitsNamed typed)

theorem accepts_decode : Accepts decode Fits := by
  refine Record.accepts_loose (fun name known part medium document before spells => ?_)
    fun name other part => fitsNamed_of_not_mem other part
  simp only [record, List.mem_cons, List.not_mem_nil, or_false] at known
  rcases known with rfl | rfl
  · exact (accepts_text.table.optional part).stores spells _
  · exact (Requirement.accepts_loose.list.optional part).stores spells _

end LabelSelector

/-! ### Shapes -/

namespace Shape

mutual

/-- The value is of the shape in all of its parts. -/
def Fits : Shape → Json → Prop
  | .text, value => IsText value
  | .bool, value => IsBool value
  | .int32, value => IsInt32 value
  | .int64, value => IsInt64 value
  | .time, value => IsTime value
  | .bound, value => IsInt32 value ∨ IsText value
  | .selector, value => LabelSelector.Fits value
  | .metadata, value => ObjectMeta.Fits value
  | .list item, value => EachItem (fun part => item.Fits part) value
  | .table entry, value => EachMember (fun _ part => entry.Fits part) value
  | .record _ fields, value => EachMember (fun name part => FitsUnder fields name part) value

/-- The value may stand under the name: it is null, or of the shape that belongs to the name. -/
def FitsUnder : List (String × Shape) → String → Json → Prop
  | [], _, _ => True
  | (field, shape) :: rest, name, value =>
      if field = name then NullOr (fun part => shape.Fits part) value
      else FitsUnder rest name value

end

/-- What may stand under the names of a record. -/
def typed (fields : List (String × Shape)) : List (String × (Json → Prop)) :=
  fields.map fun (name, shape) => (name, NullOr shape.Fits)

theorem fitsUnder_eq (fields : List (String × Shape)) :
    FitsUnder fields = FitsNamed (typed fields) := by
  induction fields with
  | nil => rfl
  | cons head tail inductionHypothesis =>
      funext name value
      rw [FitsUnder, inductionHypothesis]
      rfl

theorem names_typed (fields : List (String × Shape)) :
    (typed fields).map Prod.fst = fields.map Prod.fst := by
  rw [typed, List.map_map]
  rfl

theorem names_looks (fields : List (String × Shape)) :
    (looks fields).map Prod.fst = fields.map Prod.fst := by
  induction fields with
  | nil => rfl
  | cons head tail inductionHypothesis =>
      rw [looks, List.map_cons, List.map_cons, inductionHypothesis]

mutual

/-- What is looked at passes if and only if it is of the shape. -/
theorem accepts_look : ∀ shape : Shape, Accepts shape.look shape.Fits
  | .text => accepts_text.seen
  | .bool => accepts_bool.seen
  | .int32 => accepts_int32.seen
  | .int64 => accepts_int64.seen
  | .time => accepts_time.seen
  | .bound => accepts_bound.seen
  | .selector => LabelSelector.accepts_decode.seen
  | .metadata => ObjectMeta.accepts_decode.seen
  | .list item => (accepts_look item).list.seen
  | .table entry => (accepts_look entry).table.seen
  | .record _ fields => by
      refine Record.accepts_loose (fun name known part medium document before spells => ?_) ?_
      · obtain ⟨look, found, accepts⟩ := accepts_looks fields name known
        simp only [Record.checked, found]
        exact accepts part spells
      · intro name other part
        rw [fitsUnder_eq]
        refine fitsNamed_of_not_mem ?_ part
        rwa [names_typed, ← names_looks]

theorem accepts_looks : ∀ (fields : List (String × Shape)) (name : String),
    name ∈ (looks fields).map Prod.fst →
      ∃ look, (looks fields).lookup name = some look ∧ Accepts look (FitsUnder fields name)
  | [], name, known => by simp [looks] at known
  | (field, shape) :: rest, name, known => by
      by_cases same : field = name
      · subst same
        refine ⟨_, List.lookup_cons_self, ?_⟩
        exact (accepts_look shape).optional.seen.congr (by simp [FitsUnder])
      · have later : name ∈ (looks rest).map Prod.fst :=
          (List.mem_cons.mp known).resolve_left (Ne.symm same)
        obtain ⟨look, found, accepts⟩ := accepts_looks rest name later
        refine ⟨look, ?_, accepts.congr (by simp [FitsUnder, same])⟩
        rw [looks, List.lookup_cons, beq_eq_false_iff_ne.mpr (Ne.symm same)]
        exact found

end

theorem reads_unkept {α : Type} (fields : List (String × Shape)) :
    List.Forall₂ Reads (unkept fields : List (RecordField α)) (typed fields) := by
  induction fields with
  | nil => exact .nil
  | cons head tail inductionHypothesis =>
      exact .cons (reads_seen (accepts_look head.2)) inductionHypothesis

theorem accepts_ofFields {α : Type} {fields : List (RecordField α)} {shapes : List (String × Shape)}
    (reads : List.Forall₂ Reads fields (typed shapes)) (title : String) (empty : α) :
    Accepts (Record.ofFields title fields empty).loose (Shape.record title shapes).Fits := by
  show Accepts _ (EachMember (FitsUnder shapes))
  rw [fitsUnder_eq]
  exact Decode.accepts_ofFields reads title empty

end Shape

end AvailabilityGate
