import AvailabilityGate.Manifest
import AvailabilityGate.Proofs.Manifest.Metadata

/-!
Owns what a manifest keeps of the object that it was read from. The types and the metadata are taken
out and put back, the metadata without what is not known of them; the other members stay as they
are.

Does not own objects with half a type or with metadata that cannot be read. Of such objects the
manifest says less than they do, or there is none.

Main statement: a manifest is encoded as its object, but for the metadata.
-/

namespace AvailabilityGate

open Fallible

/-! ### Types -/

namespace TypeMeta

/-- The text that is found at a name. -/
def textAt (name : String) (members : List (String × Document)) : Option String :=
  (members.lookup name).bind fun document => (Decode.text .value document).toOption

/-- Where a text stands, or nothing, and then nothing was found before. -/
def Takes (name : String) (before : Option String) (members : List (String × Document)) : Prop :=
  ∀ document, (name, document) ∈ members →
    before = none ∧ ∃ text, Decode.text .value document = .ok text

theorem takeFrom_eq {members : List (String × Document)}
    (distinct : (members.map Prod.fst).Nodup) {apiVersion kind : Option String}
    (takesVersion : Takes "apiVersion" apiVersion members)
    (takesKind : Takes "kind" kind members) :
    takeFrom apiVersion kind members =
      (ofParts (apiVersion.or (textAt "apiVersion" members)) (kind.or (textAt "kind" members)),
        members.filter fun member => member.1 ∉ ["apiVersion", "kind"]) := by
  induction members generalizing apiVersion kind with
  | nil => simp [takeFrom, textAt]
  | cons head tail inductionHypothesis =>
      obtain ⟨name, document⟩ := head
      obtain ⟨nameAbsent, tailDistinct⟩ := List.nodup_cons.mp distinct
      have versionLater : Takes "apiVersion" apiVersion tail := fun document member =>
        takesVersion document (List.mem_cons_of_mem _ member)
      have kindLater : Takes "kind" kind tail := fun document member =>
        takesKind document (List.mem_cons_of_mem _ member)
      have absent (before : Option String) : Takes name before tail := fun document member =>
        absurd (List.mem_map_of_mem member) nameAbsent
      rw [takeFrom]
      by_cases isVersion : name = "apiVersion"
      · subst isVersion
        obtain ⟨rfl, text, found⟩ := takesVersion document List.mem_cons_self
        have continued := inductionHypothesis tailDistinct (absent (some text)) kindLater
        simp [takePart, found, continued, textAt, lookup_cons_eq_ite, Except.toOption]
      · by_cases isKind : name = "kind"
        · subst isKind
          obtain ⟨rfl, text, found⟩ := takesKind document List.mem_cons_self
          have continued := inductionHypothesis tailDistinct versionLater (absent (some text))
          simp [takePart, found, continued, textAt, lookup_cons_eq_ite, Except.toOption]
        · have continued := inductionHypothesis tailDistinct versionLater kindLater
          simp [isVersion, isKind, continued, textAt, lookup_cons_eq_ite, Ne.symm isVersion,
            Ne.symm isKind, eq_comm]

end TypeMeta

namespace Manifest

open Decode

/-- The object names its type in whole or not at all, and has metadata that can be read or none. -/
structure Detachable (entries : List (String × Json)) : Prop where
  types :
    (∃ apiVersion kind, (Json.obj entries).get? "apiVersion" = some (.str apiVersion) ∧
      (Json.obj entries).get? "kind" = some (.str kind)) ∨
    (Json.obj entries).get? "apiVersion" = none ∧ (Json.obj entries).get? "kind" = none
  metadata : ObjectMeta.ReadableIn entries

/-- The names whose members are taken out of an object. -/
def takenNames : List String := ["apiVersion", "kind", "metadata"]

/-- The members that are neither types nor metadata. -/
def kept (entries : List (String × Json)) : List (String × Json) :=
  entries.filter fun entry => entry.1 ∉ takenNames

/-- The manifest has everything of the object: its types and its metadata, if there are any, and
the other members. -/
structure TakenFrom (entries : List (String × Json)) (manifest : Manifest) : Prop where
  apiVersion : (Json.obj entries).get? "apiVersion" = manifest.types.map (.str ·.apiVersion)
  kind : (Json.obj entries).get? "kind" = manifest.types.map (.str ·.kind)
  metadata : FieldIs ObjectMeta.decode {} entries "metadata" manifest.metadata
  rest : Document.ofJson (.obj manifest.rest) = Document.ofJson (.obj (kept entries))

/-! ### Reading -/

section Reading

variable {medium : Medium} {members : Document.Members} {entries : List (String × Json)}
  (spells : (Document.obj members none).Spells (.obj entries))
include spells

theorem strict_of_metadata {metadata : ObjectMeta}
    (isMetadata : FieldIs ObjectMeta.decode {} entries "metadata" metadata) :
    record.strict medium (.obj members none) = .ok metadata := by
  have keeps : record.Keeps medium entries fun names stored =>
      stored = if "metadata" ∈ names then metadata else {} := by
    intro name part document names before known found spelled _
    obtain rfl : name = "metadata" := by simpa [record] using known
    have decoded := (fieldIs_of_found found).mp isMetadata
    exact ⟨metadata, (ObjectMeta.uniform_decode spelled metadata).mpr decoded, by simp⟩
  obtain ⟨_, names, succeeds, rfl, areFields⟩ :=
    Record.strict_of_spells keeps spells rfl (by simp [record])
  rw [succeeds]
  simp [areFields _, record, isMetadata.ite_eq]

theorem nodup_otherMembers : ((record.otherMembers members).map Prod.fst).Nodup := by
  cases spells with
  | obj _ distinct _ _ => exact Record.nodup_otherMembers distinct

theorem takes_text {name : String} {text? : Option String} (other : name ∉ record.fields)
    (isText : (Json.obj entries).get? name = text?.map .str) :
    TypeMeta.Takes name none (record.otherMembers members) ∧
      TypeMeta.textAt name (record.otherMembers members) = text? := by
  have spelledText {document : Document} (member : (.ok name, document) ∈ members) :
      ∃ text, text? = some text ∧ document = .str text := by
    obtain ⟨part, found, spelled⟩ := spells.exists_part member
    obtain ⟨text, given, rfl⟩ := Option.map_eq_some_iff.mp (isText.symm.trans found)
    cases spelled
    exact ⟨text, given, rfl⟩
  have lookup_iff {document : Document} :
      (record.otherMembers members).lookup name = some document ↔
        (.ok name, document) ∈ members := by
    rw [lookup_eq_some_iff_mem (nodup_otherMembers spells), Record.mem_otherMembers]
    exact and_iff_left other
  constructor
  · intro document among
    obtain ⟨text, _, rfl⟩ := spelledText (Record.mem_otherMembers.mp among).1
    exact ⟨rfl, text, rfl⟩
  · rw [TypeMeta.textAt]
    cases looked : (record.otherMembers members).lookup name with
    | some document =>
        obtain ⟨text, rfl, rfl⟩ := spelledText (lookup_iff.mp looked)
        rfl
    | none =>
        cases text? with
        | none => rfl
        | some text =>
            obtain ⟨document, member, _⟩ := spells.exists_member isText
            cases looked.symm.trans (lookup_iff.mpr member)

/-- The members that are left when the types are taken. -/
def left (members : Document.Members) : List (String × Document) :=
  (record.otherMembers members).filter fun member => member.1 ∉ ["apiVersion", "kind"]

theorem takeFrom_otherMembers (detachable : Detachable entries) :
    ∃ found : Except DecodeFailure TypeMeta,
      TypeMeta.takeFrom none none (record.otherMembers members) = (found, left members) ∧
      (Json.obj entries).get? "apiVersion" = found.toOption.map (.str ·.apiVersion) ∧
      (Json.obj entries).get? "kind" = found.toOption.map (.str ·.kind) := by
  have taken (apiVersion? kind? : Option String)
      (version : (Json.obj entries).get? "apiVersion" = apiVersion?.map .str)
      (kind : (Json.obj entries).get? "kind" = kind?.map .str) :
      TypeMeta.takeFrom none none (record.otherMembers members) =
        (TypeMeta.ofParts apiVersion? kind?, left members) := by
    obtain ⟨takesVersion, versionText⟩ := takes_text spells (by simp [record]) version
    obtain ⟨takesKind, kindText⟩ := takes_text spells (by simp [record]) kind
    rw [TypeMeta.takeFrom_eq (nodup_otherMembers spells) takesVersion takesKind, versionText,
      kindText, Option.none_or, Option.none_or, left]
  rcases detachable.types with ⟨apiVersion, kind, hasVersion, hasKind⟩ | ⟨noVersion, noKind⟩
  · exact ⟨_, taken (some apiVersion) (some kind) hasVersion hasKind, hasVersion, hasKind⟩
  · exact ⟨_, taken none none noVersion noKind, noVersion, noKind⟩

theorem keepMembers_left :
    ∃ rest, keepMembers (left members) = .ok rest ∧
      Document.ofJson (.obj rest) = Document.ofJson (.obj (kept entries)) := by
  have distinct : ((left members).map Prod.fst).Nodup :=
    (nodup_otherMembers spells).sublist (List.filter_sublist.map _)
  have mem_left (name : String) (document : Document) : (name, document) ∈ left members ↔
      (.ok name, document) ∈ members ∧ decide (name ∉ takenNames) = true := by
    rw [left, List.mem_filter, Record.mem_otherMembers]
    simp [record, takenNames]
    grind
  have spelled := spells.restrict _ distinct mem_left
  obtain ⟨again, decoded, same⟩ := spelled.readsBack
  rw [Decode.json] at decoded
  obtain ⟨values, read, isAgain⟩ := bind_eq_ok_iff.mp decoded
  cases isAgain
  refine ⟨Json.members values, ?_, same⟩
  rw [keepMembers, read]
  rfl

end Reading

theorem exists_takenFrom {medium : Medium} {document : Document} {entries : List (String × Json)}
    (spells : document.Spells (.obj entries)) (detachable : Detachable entries) :
    ∃ manifest, decode medium document = .ok manifest ∧ TakenFrom entries manifest := by
  obtain ⟨members, rfl⟩ := spells.exists_members
  obtain ⟨metadata, isMetadata⟩ := exists_fieldIs {} detachable.metadata
  obtain ⟨types, taken, apiVersion, kind⟩ := takeFrom_otherMembers spells detachable
  obtain ⟨rest, restKept, sameRest⟩ := keepMembers_left spells
  refine ⟨⟨types.toOption, metadata, rest⟩, ?_, apiVersion, kind, isMetadata, sameRest⟩
  rw [decode, Record.openRecord_of_spells spells, strict_of_metadata spells isMetadata]
  simp [Except.map, bind, Except.bind, taken, restKept, pure, Except.pure]

/-! ### Writing -/

theorem get?_encode (manifest : Manifest) (name : String) :
    manifest.encode.get? name =
      (((Json.obj manifest.rest).get? name).or
        (if name = "metadata" then some manifest.metadata.encode else none)).or
      (if name = "apiVersion" then manifest.types.map (.str ·.apiVersion)
        else if name = "kind" then manifest.types.map (.str ·.kind) else none) := by
  rw [encode, Json.get?_obj, Json.get?_obj, List.reverse_append, List.reverse_cons,
    List.lookup_append, List.lookup_append, lookup_cons_eq_ite]
  cases manifest.types with
  | none => simp
  | some types =>
      simp [TypeMeta.encode, lookup_cons_eq_ite]
      grind

theorem TakenFrom.get?_encode_eq {entries : List (String × Json)} {manifest : Manifest}
    (takenFrom : TakenFrom entries manifest) (name : String) :
    (manifest.encode.get? name).map Document.ofJson =
      if name = "metadata" then some (.ofJson manifest.metadata.encode)
      else ((Json.obj entries).get? name).map .ofJson := by
  have fromRest := Document.get?_congr takenFrom.rest name
  rw [kept, Json.get?_filter fun name => decide (name ∉ takenNames)] at fromRest
  rw [get?_encode, Option.map_or, Option.map_or, fromRest]
  by_cases isMetadata : name = "metadata"
  · simp [isMetadata, takenNames]
  · by_cases isVersion : name = "apiVersion"
    · simp [isVersion, takenFrom.apiVersion, takenNames]
    · by_cases isKind : name = "kind"
      · simp [isKind, takenFrom.kind, takenNames]
      · simp [isMetadata, isVersion, isKind, takenNames]

end Manifest

end AvailabilityGate
