import AvailabilityGate.Proofs.Decode.Intact
import Mathlib.Data.List.Forall2

/-!
Owns what it is for a document to spell a value. Objects are compared by what is found at each name:
the order of the members is free, and no name comes twice.

Does not own documents with a fault or with repeated names, which spell nothing.

Main statements: the document of a value spells it, and what spells a value is read back as it.
-/

namespace AvailabilityGate

open Fallible

theorem Json.get?_filter (keep : String → Bool) (entries : List (String × Json)) (name : String) :
    (Json.obj (entries.filter fun entry => keep entry.1)).get? name =
      if keep name then (Json.obj entries).get? name else none := by
  rw [Json.get?_obj, Json.get?_obj, ← List.filter_reverse, lookup_filter]

namespace Document

/-- The document is the value, its members in any order and each name once. -/
inductive Spells : Document → Json → Prop
  | null : Spells .null .null
  | bool (value : Bool) : Spells (.bool value) (.bool value)
  | int (value : Int) : Spells (.int value) (.int value)
  | float (value : Float) : Spells (.float value) (.float value)
  | str (value : String) : Spells (.str value) (.str value)
  | arr {documents : List Document} {items : List Json}
      (parts : List.Forall₂ Spells documents items) : Spells (.arr documents none) (.arr items)
  | obj {members : Members} {entries : List (String × Json)}
      (named : ∀ member ∈ members, ∃ name, member.1 = .ok name)
      (distinct : (members.map Prod.fst).Nodup)
      (present : ∀ name, .ok name ∈ members.map Prod.fst ↔ ((Json.obj entries).get? name).isSome)
      (parts : ∀ name document part, (.ok name, document) ∈ members →
        (Json.obj entries).get? name = some part → Spells document part) :
      Spells (.obj members none) (.obj entries)

/-- The text is one JSON value, spelled in some way, with nothing but blanks around it. -/
def Writes (text : String) (value : Json) : Prop :=
  (read text).document.Spells value ∧ (read text).trailing = false

/-! ### The document of a value -/

theorem ofMembers_eq_map (entries : List (String × Json)) :
    ofMembers entries = entries.map fun entry => (entry.1, ofJson entry.2) := by
  induction entries with
  | nil => rfl
  | cons head tail inductionHypothesis => rw [ofMembers, inductionHypothesis, List.map_cons]

theorem lookup_ofMembers (name : String) (entries : List (String × Json)) :
    (ofMembers entries).lookup name = (entries.lookup name).map ofJson := by
  induction entries with
  | nil => rfl
  | cons head tail inductionHypothesis =>
      rw [ofMembers, lookup_cons_eq_ite, lookup_cons_eq_ite, inductionHypothesis]
      split <;> rfl

theorem get?_ofMembers (name : String) (entries : List (String × Json)) :
    (Table.ofList (ofMembers entries)).get? name = ((Json.obj entries).get? name).map ofJson := by
  rw [Table.get?_ofList, Json.get?_obj, ofMembers_eq_map, ← List.map_reverse, ← ofMembers_eq_map,
    lookup_ofMembers]

/-- The document of an object is that of its members by name. -/
theorem ofJson_obj_congr {entries others : List (String × Json)}
    (same : ∀ name, ((Json.obj entries).get? name).map ofJson =
      ((Json.obj others).get? name).map ofJson) :
    ofJson (.obj entries) = ofJson (.obj others) := by
  have sameTable : Table.ofList (ofMembers entries) = Table.ofList (ofMembers others) :=
    Table.eq_of_get? fun name => by rw [get?_ofMembers, get?_ofMembers, same]
  rw [ofJson, ofJson, sameTable]

theorem get?_congr {entries others : List (String × Json)}
    (same : ofJson (.obj entries) = ofJson (.obj others)) (name : String) :
    ((Json.obj entries).get? name).map ofJson = ((Json.obj others).get? name).map ofJson := by
  rw [ofJson, ofJson] at same
  have sameMembers := (obj.inj same).1
  have sameEntries : (Table.ofList (ofMembers entries)).entries =
      (Table.ofList (ofMembers others)).entries := by
    refine List.map_injective_iff.mpr (fun left right alike => ?_) sameMembers
    simpa [Prod.ext_iff] using alike
  rw [← get?_ofMembers, ← get?_ofMembers, Table.get?, Table.get?, sameEntries]

theorem mem_of_get? {name : String} {part : Json} {entries : List (String × Json)}
    (found : (Json.obj entries).get? name = some part) : (name, part) ∈ entries := by
  rw [Json.get?_obj, List.lookup_eq_some_iff] at found
  obtain ⟨before, after, split, _⟩ := found
  rw [← List.mem_reverse, split]
  simp

theorem mem_members_ofJson {name : String} {document : Document} {entries : List (String × Json)} :
    (.ok name, document) ∈ (Table.ofList (ofMembers entries)).entries.map
        (fun entry => ((.ok entry.1 : MemberName), entry.2)) ↔
      ((Json.obj entries).get? name).map ofJson = some document := by
  rw [← get?_ofMembers, ← Table.mem_entries_iff, List.mem_map]
  constructor
  · rintro ⟨⟨_, _⟩, member, same⟩
    cases same
    exact member
  · intro member
    exact ⟨_, member, rfl⟩

mutual

theorem spells_ofJson (value : Json) : (ofJson value).Spells value := by
  match value with
  | .null => exact .null
  | .bool value => exact .bool value
  | .int value => exact .int value
  | .float value => exact .float value
  | .str value => exact .str value
  | .arr items => exact .arr (spells_ofItems items)
  | .obj entries =>
      have spelled := spells_ofMembers entries
      rw [ofJson]
      refine .obj (fun member among => ?named) ?distinct (fun name => ?present)
        fun name document part member found => ?parts
      case named =>
        obtain ⟨entry, _, rfl⟩ := List.mem_map.mp among
        exact ⟨entry.1, rfl⟩
      case distinct =>
        rw [List.map_map, List.Nodup, List.pairwise_map]
        exact (Table.ofList (ofMembers entries)).ascending.imp fun below same =>
          String.ne_of_lt below (Except.ok.inj same)
      case present =>
        rw [List.mem_map]
        constructor
        · rintro ⟨⟨_, document⟩, member, rfl⟩
          simpa using Option.isSome_of_mem (mem_members_ofJson.mp member)
        · intro isThere
          obtain ⟨part, found⟩ := Option.isSome_iff_exists.mp isThere
          exact ⟨(.ok name, ofJson part), mem_members_ofJson.mpr (by rw [found]; rfl), rfl⟩
      case parts =>
        rw [mem_members_ofJson, found] at member
        cases member
        exact spelled (name, part) (mem_of_get? found)

theorem spells_ofItems (items : List Json) : List.Forall₂ Spells (ofItems items) items := by
  match items with
  | [] => exact .nil
  | item :: rest => exact .cons (spells_ofJson item) (spells_ofItems rest)

theorem spells_ofMembers (entries : List (String × Json)) :
    ∀ entry ∈ entries, (ofJson entry.2).Spells entry.2 := by
  match entries with
  | [] => simp
  | (_, value) :: rest =>
      exact List.forall_mem_cons.mpr ⟨spells_ofJson value, spells_ofMembers rest⟩

end

/-! ### Free-form reading -/

/-- Free-form reading gives the value back, but for the order of members. -/
def ReadsBack (document : Document) (value : Json) : Prop :=
  ∃ again, Decode.json document = .ok again ∧ ofJson again = ofJson value

theorem jsonItems_readsBack {documents : List Document} {items : List Json} (index : Nat)
    (parts : List.Forall₂ Spells documents items)
    (read : ∀ document ∈ documents, ∀ item, document.Spells item → document.ReadsBack item) :
    ∃ again, Decode.jsonItems none index documents = .ok again ∧ ofItems again = ofItems items := by
  induction parts generalizing index with
  | nil => exact ⟨[], rfl, rfl⟩
  | cons spelled _ inductionHypothesis =>
      obtain ⟨headRead, tailRead⟩ := List.forall_mem_cons.mp read
      obtain ⟨value, decoded, sameValue⟩ := headRead _ spelled
      obtain ⟨values, tailDecoded, sameValues⟩ := inductionHypothesis (index + 1) tailRead
      refine ⟨value :: values, ?_, ?_⟩
      · simp [Decode.jsonItems, decoded, tailDecoded, Decode.within]
        rfl
      · rw [ofItems, ofItems, sameValue, sameValues]

/-- Members of which each can be read are read as the list of what each of them is. -/
theorem jsonMembers_eq_ok {members : Members}
    (read : ∀ member ∈ members, ∃ entry : String × Json,
      member.1 = .ok entry.1 ∧ Decode.json member.2 = .ok entry.2) :
    ∃ values, Decode.jsonMembers none members = .ok values ∧
      (members.map fun member => (member.1, Decode.json member.2)) =
        values.map fun entry => (.ok entry.1, .ok entry.2) := by
  induction members with
  | nil => exact ⟨[], rfl, rfl⟩
  | cons head tail inductionHypothesis =>
      obtain ⟨headRead, tailRead⟩ := List.forall_mem_cons.mp read
      obtain ⟨⟨name, value⟩, named, decoded⟩ := headRead
      obtain ⟨values, tailDecoded, sameValues⟩ := inductionHypothesis tailRead
      obtain ⟨_, document⟩ := head
      cases named
      refine ⟨(name, value) :: values, ?_, by simp [decoded, sameValues]⟩
      have placed : Decode.withinMember name document (Decode.json document) = .ok value :=
        Decode.withinMember_eq_ok_iff.mpr decoded
      rw [Decode.jsonMembers]
      simp [Decode.memberName, placed, tailDecoded, bind, Except.bind, pure, Except.pure]

theorem readsBack_obj {members : Members} {entries : List (String × Json)}
    (named : ∀ member ∈ members, ∃ name, member.1 = .ok name)
    (distinct : (members.map Prod.fst).Nodup)
    (present : ∀ name, .ok name ∈ members.map Prod.fst ↔ ((Json.obj entries).get? name).isSome)
    (read : ∀ name document part, (.ok name, document) ∈ members →
      (Json.obj entries).get? name = some part → document.ReadsBack part) :
    (obj members none).ReadsBack (.obj entries) := by
  have readable : ∀ member ∈ members, ∃ entry : String × Json,
      member.1 = .ok entry.1 ∧ Decode.json member.2 = .ok entry.2 := by
    rintro ⟨_, document⟩ member
    obtain ⟨name, rfl⟩ := named _ member
    obtain ⟨part, found⟩ := Option.isSome_iff_exists.mp
      ((present name).mp (List.mem_map_of_mem member))
    obtain ⟨again, decoded, _⟩ := read name document part member found
    exact ⟨(name, again), rfl, decoded⟩
  obtain ⟨values, decoded, same⟩ := jsonMembers_eq_ok readable
  have sameNames : members.map Prod.fst = values.map fun entry => .ok entry.1 := by
    simpa [Function.comp_def] using congrArg (List.map Prod.fst) same
  have valuesDistinct : (values.map Prod.fst).Nodup := by
    rw [sameNames, List.Nodup, List.pairwise_map] at distinct
    exact List.pairwise_map.mpr (distinct.imp fun different alike =>
      different (congrArg Except.ok alike))
  have mem_values : ∀ name value, (name, value) ∈ values ↔
      ∃ document, (.ok name, document) ∈ members ∧ Decode.json document = .ok value := by
    intro name value
    have mapped : (name, value) ∈ values ↔ ((.ok name, .ok value) : MemberName × _) ∈
        members.map fun member => (member.1, Decode.json member.2) := by
      rw [same]
      simp
    rw [mapped]
    simp
  refine ⟨.obj (Json.members values), by rw [Decode.json, decoded]; rfl, ?_⟩
  refine ofJson_obj_congr fun name => ?_
  have again : (Json.obj (Json.members values)).get? name = values.lookup name := by
    rw [Json.get?, Json.members, Table.ofList_entries, Table.get?_ofList,
      lookup_reverse valuesDistinct]
  rw [again]
  cases found : (Json.obj entries).get? name with
  | none =>
      cases kept : values.lookup name with
      | none => rfl
      | some value =>
          obtain ⟨document, member, _⟩ :=
            (mem_values name value).mp ((lookup_eq_some_iff_mem valuesDistinct).mp kept)
          have isThere := (present name).mp (List.mem_map_of_mem member)
          simp [found] at isThere
  | some part =>
      obtain ⟨⟨_, document⟩, member, rfl⟩ :=
        List.mem_map.mp ((present name).mpr (Option.isSome_of_mem found))
      obtain ⟨value, decoded, sameValue⟩ := read name document part member found
      have kept : values.lookup name = some value :=
        (lookup_eq_some_iff_mem valuesDistinct).mpr
          ((mem_values name value).mpr ⟨document, member, decoded⟩)
      rw [kept]
      exact congrArg some sameValue

/-- What spells a value is read back as that value. -/
theorem Spells.readsBack {document : Document} {value : Json} (spells : document.Spells value) :
    document.ReadsBack value := by
  cases spells with
  | null => exact ⟨.null, rfl, rfl⟩
  | bool value => exact ⟨.bool value, rfl, rfl⟩
  | int value => exact ⟨.int value, rfl, rfl⟩
  | float value => exact ⟨.float value, rfl, rfl⟩
  | str value => exact ⟨.str value, rfl, rfl⟩
  | arr parts =>
      obtain ⟨again, decoded, same⟩ := jsonItems_readsBack 0 parts
        fun document member item spelled => spelled.readsBack
      exact ⟨.arr again, by rw [Decode.json, decoded]; rfl, by rw [ofJson, ofJson, same]⟩
  | obj named distinct present parts =>
      exact readsBack_obj named distinct present fun name document part member found =>
        (parts name document part member found).readsBack
termination_by sizeOf document
decreasing_by
  · have smaller := List.sizeOf_lt_of_mem member
    simp only [arr.sizeOf_spec]
    omega
  · have smaller := List.sizeOf_lt_of_mem member
    simp only [obj.sizeOf_spec, Prod.mk.sizeOf_spec] at smaller ⊢
    omega

/-! ### Objects -/

section Object

variable {document : Document} {members : Members} {ending : Option SyntaxFault}
  {entries : List (String × Json)} {name : String} {part : Json}

theorem Spells.exists_members (spells : document.Spells (.obj entries)) :
    ∃ members, document = .obj members none := by
  cases spells
  exact ⟨_, rfl⟩

theorem Spells.exists_part (spells : Spells (.obj members ending) (.obj entries))
    (member : (.ok name, document) ∈ members) :
    ∃ part, (Json.obj entries).get? name = some part ∧ document.Spells part := by
  cases spells with
  | obj named distinct present parts =>
      obtain ⟨part, found⟩ := Option.isSome_iff_exists.mp
        ((present name).mp (List.mem_map_of_mem member))
      exact ⟨part, found, parts name document part member found⟩

theorem Spells.exists_member (spells : Spells (.obj members ending) (.obj entries))
    (found : (Json.obj entries).get? name = some part) :
    ∃ document, (.ok name, document) ∈ members ∧ document.Spells part := by
  cases spells with
  | obj named distinct present parts =>
      obtain ⟨⟨_, document⟩, member, rfl⟩ :=
        List.mem_map.mp ((present name).mpr (Option.isSome_of_mem found))
      exact ⟨document, member, parts name document part member found⟩

end Object

/-- Some of the members spell what the object has under their names. -/
theorem Spells.restrict {members : Members} {entries : List (String × Json)}
    {others : List (String × Document)} (keep : String → Bool)
    (spells : Spells (.obj members none) (.obj entries)) (distinct : (others.map Prod.fst).Nodup)
    (mem_others : ∀ name document,
      (name, document) ∈ others ↔ (.ok name, document) ∈ members ∧ keep name) :
    Spells (.obj (others.map fun member => (.ok member.1, member.2)) none)
      (.obj (entries.filter fun entry => keep entry.1)) := by
  have get?_kept (name : String) := Json.get?_filter keep entries name
  refine .obj ?named ?distinct (fun name => ?present) fun name document part member found => ?parts
  case named =>
    intro member among
    obtain ⟨other, _, rfl⟩ := List.mem_map.mp among
    exact ⟨other.1, rfl⟩
  case distinct =>
    rw [List.map_map, List.Nodup, List.pairwise_map]
    exact (List.pairwise_map.mp distinct).imp fun different same => different (Except.ok.inj same)
  case present =>
    rw [get?_kept, List.map_map, List.mem_map]
    constructor
    · rintro ⟨⟨_, document⟩, among, same⟩
      cases same
      obtain ⟨member, kept⟩ := (mem_others _ _).mp among
      obtain ⟨part, found, _⟩ := spells.exists_part member
      simp [kept, found]
    · intro isThere
      split at isThere
      · next kept =>
          obtain ⟨part, found⟩ := Option.isSome_iff_exists.mp isThere
          obtain ⟨document, member, _⟩ := spells.exists_member found
          exact ⟨(name, document), (mem_others _ _).mpr ⟨member, kept⟩, rfl⟩
      · simp at isThere
  case parts =>
    obtain ⟨⟨_, _⟩, among, same⟩ := List.mem_map.mp member
    cases same
    obtain ⟨isMember, kept⟩ := (mem_others _ _).mp among
    obtain ⟨other, isOther, spelled⟩ := spells.exists_part isMember
    rw [get?_kept, if_pos kept, isOther] at found
    exact Option.some.inj found ▸ spelled

theorem Spells.intact {document : Document} {value : Json} (spells : document.Spells value) :
    document.Intact := by
  obtain ⟨_, decoded, _⟩ := spells.readsBack
  exact Decode.json_intact decoded

theorem Spells.ne_null {document : Document} {value : Json} (spells : document.Spells value)
    (notNull : value ≠ .null) : document ≠ .null := by
  rintro rfl
  cases spells
  exact notNull rfl

end Document

theorem Decode.optional_of_ne_null {α : Type} {decode : Decoder α} {medium : Medium}
    {document : Document} (present : document ≠ .null) :
    optional decode medium document = some <$> decode medium document := by
  rw [optional]
  exact present

end AvailabilityGate
