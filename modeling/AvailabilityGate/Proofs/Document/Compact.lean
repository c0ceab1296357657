import AvailabilityGate.Proofs.Decode.Spelling
import AvailabilityGate.Proofs.Document.Scalars

/-!
Owns the reading of text that was printed compactly.

Main statement: what is printed of a value, if its numbers are whole and fit 64 bits, is read as the
value.
-/

namespace AvailabilityGate

/-- A value that is printed so that it can be read: with whole numbers that fit 64 bits, with each
name once in an object, and not nested deeper than so many levels. -/
inductive Json.Plain : Nat → Json → Prop
  | null {depth : Nat} : Plain depth .null
  | bool {depth : Nat} (value : Bool) : Plain depth (.bool value)
  | int {depth : Nat} {value : Int} (fits : Document.FitsWord value) : Plain depth (.int value)
  | str {depth : Nat} (value : String) : Plain depth (.str value)
  | arr {depth : Nat} {items : List Json} (parts : ∀ item ∈ items, Plain depth item) :
      Plain (depth + 1) (.arr items)
  | obj {depth : Nat} {entries : List (String × Json)} (distinct : (entries.map Prod.fst).Nodup)
      (parts : ∀ entry ∈ entries, Plain depth entry.2) : Plain (depth + 1) (.obj entries)

namespace Json

/-- Members with some of the names, in that order, and with plain values. -/
structure PlainMembers (depth : Nat) (names : List String) (entries : List (String × Json)) :
    Prop where
  named : (entries.map Prod.fst).Sublist names
  parts : ∀ entry ∈ entries, entry.2.Plain depth

section Encoders

variable {α : Type} {depth : Nat} {encode : α → Json}

theorem PlainMembers.single {name : String} {value : Json} (plain : value.Plain depth) :
    PlainMembers depth [name] [(name, value)] :=
  ⟨.refl [name], by simpa using plain⟩

theorem PlainMembers.optional {name : String} (plain : ∀ value, (encode value).Plain depth)
    (value? : Option α) : PlainMembers depth [name] (Json.optional name encode value?) := by
  cases value? with
  | none => exact ⟨List.nil_sublist _, by simp [Json.optional]⟩
  | some value => exact .single (plain value)

theorem PlainMembers.append {before behind : List String} {left right : List (String × Json)}
    (leftPlain : PlainMembers depth before left) (rightPlain : PlainMembers depth behind right) :
    PlainMembers depth (before ++ behind) (left ++ right) := by
  constructor
  case named =>
    rw [List.map_append]
    exact leftPlain.named.append rightPlain.named
  case parts => exact List.forall_mem_append.mpr ⟨leftPlain.parts, rightPlain.parts⟩

theorem PlainMembers.obj {names : List String} {entries : List (String × Json)}
    (plain : PlainMembers depth names entries) (distinct : names.Nodup) :
    (Json.obj entries).Plain (depth + 1) :=
  .obj (plain.named.nodup distinct) plain.parts

theorem plain_arr_map (plain : ∀ value, (encode value).Plain depth) (values : List α) :
    (Json.arr (values.map encode)).Plain (depth + 1) := by
  refine .arr fun item member => ?_
  obtain ⟨_, _, rfl⟩ := List.mem_map.mp member
  exact plain _

theorem plain_ofTable (plain : ∀ value, (encode value).Plain depth) (table : Table α) :
    (ofTable encode table).Plain (depth + 1) := by
  refine .obj ?distinct fun entry member => ?parts
  case distinct =>
    rw [List.map_map]
    exact table.ascending.nodup_keys
  case parts =>
    obtain ⟨_, _, rfl⟩ := List.mem_map.mp member
    exact plain _

theorem plain_int32 (value : Int32) : (Json.int value.toInt).Plain depth := by
  refine .int ?_
  have lower := value.le_toInt
  have upper := value.toInt_lt
  unfold Document.FitsWord
  omega

end Encoders

end Json

namespace Document

/-! ### Tokens -/

section Tokens

variable (rest : List Char)

theorem tokens_openArray : tokens ('[' :: rest) = .openArray :: tokens rest := by
  simp [tokens, placedTokens]

theorem tokens_closeArray : tokens (']' :: rest) = .closeArray :: tokens rest := by
  simp [tokens, placedTokens]

theorem tokens_openObject : tokens ('\x7b' :: rest) = .openObject :: tokens rest := by
  simp [tokens, placedTokens]

theorem tokens_closeObject : tokens ('\x7d' :: rest) = .closeObject :: tokens rest := by
  simp [tokens, placedTokens]

theorem tokens_comma : tokens (',' :: rest) = .comma :: tokens rest := by
  simp [tokens, placedTokens]

theorem tokens_colon : tokens (':' :: rest) = .colon :: tokens rest := by
  simp [tokens, placedTokens]

theorem tokens_escaped (text : String) :
    tokens ((Json.escaped text).toList ++ rest) = .quote (.str text) :: tokens rest := by
  have scanned := QuoteScan.run_escaped [] rest text.toList
  have start : QuoteScan.having [] = {} := rfl
  rw [start] at scanned
  simp [tokens, placedTokens, Json.escaped, scanned]

theorem tokens_scalar {c : Char} (starts : c = '-' ∨ c.isAlphanum = true) :
    tokens (c :: rest) = .scalar (scanScalar c rest).1 :: tokens (scanScalar c rest).2 := by
  have other : ∀ {d : Char}, d ≠ '-' → d.isAlphanum = false → c ≠ d := by
    rintro d notMinus notAlphanum rfl
    simp [notMinus, notAlphanum] at starts
  rw [tokens, placedTokens]
  simp [other, tokens]

end Tokens

/-! ### Reading -/

/-- The reader goes on from a step with the tokens behind it. -/
def resume : ReadStep → List Token → Document × List Token
  | .more phase stack, rest => readTokens phase stack rest
  | .done document, rest => (document, rest)

theorem readTokens_cons (phase : Phase) (stack : List Frame) (token : Token) (rest : List Token) :
    readTokens phase stack (token :: rest) = resume (readStep phase stack token) rest := by
  rw [readTokens]
  cases readStep phase stack token <;> rfl

/-- A value may come next. -/
def Phase.ExpectsValue : Phase → Prop
  | .start | .firstItem | .item | .value => True
  | _ => False

theorem readTokens_value {phase : Phase} (expects : phase.ExpectsValue) (stack : List Frame)
    {token : Token} (notEnd : token ≠ .closeArray) (rest : List Token) :
    readTokens phase stack (token :: rest) = resume (valueStep stack token) rest := by
  rw [readTokens_cons]
  cases phase <;> cases token <;> simp_all [Phase.ExpectsValue, readStep]

theorem limited_of_le {outside : List Frame} (shallow : outside.length < depthLimit)
    (container : Document) : limited outside container = container := by
  unfold limited
  rw [if_pos]
  rw [List.isEmpty_iff, List.drop_eq_nil_iff]
  exact Nat.le_sub_one_of_lt shallow

/-- Wherever a value may come, the text is read as the document, if so many levels more are not too
deep there. -/
def ReadsAs (text : List Char) (depth : Nat) (document : Document) : Prop :=
  ∀ phase stack rest, phase.ExpectsValue → stack.length + depth ≤ depthLimit → Stops rest →
    readTokens phase stack (tokens (text ++ rest)) = resume (complete document stack) (tokens rest)

theorem stops_nil : Stops [] := by
  intro c tail same
  cases same

theorem stops_cons {c : Char} {rest : List Char}
    (other : c.isDigit = false ∧ c ≠ '.' ∧ c ≠ 'e' ∧ c ≠ 'E') : Stops (c :: rest) := by
  intro c tail same
  cases same
  exact other

/-! ### Values without parts -/

section Plain

variable (depth : Nat)

theorem readsAs_scalar {c : Char} {text : List Char} {document : Document}
    (starts : c = '-' ∨ c.isAlphanum = true)
    (scanned : ∀ rest, Stops rest → scanScalar c (text ++ rest) = (document, rest)) :
    ReadsAs (c :: text) depth document := by
  intro phase stack rest expects _ stops
  rw [List.cons_append, tokens_scalar _ starts, scanned rest stops,
    readTokens_value expects stack (by simp)]
  rfl

theorem readsAs_null : ReadsAs Json.null.compact.toList depth .null := by
  show ReadsAs ('n' :: ['u', 'l', 'l']) depth .null
  exact readsAs_scalar depth (by decide) fun _ _ => rfl

theorem readsAs_bool (value : Bool) :
    ReadsAs (Json.bool value).compact.toList depth (.bool value) := by
  cases value with
  | true =>
      show ReadsAs ('t' :: ['r', 'u', 'e']) depth (.bool true)
      exact readsAs_scalar depth (by decide) fun _ _ => rfl
  | false =>
      show ReadsAs ('f' :: ['a', 'l', 's', 'e']) depth (.bool false)
      exact readsAs_scalar depth (by decide) fun _ _ => rfl

theorem readsAs_int {value : Int} (fits : FitsWord value) :
    ReadsAs (Json.int value).compact.toList depth (.int value) := by
  obtain ⟨first, tail, written, starts, scanned⟩ := exists_scanScalar_int fits
  have alphanumeric : first = '-' ∨ first.isAlphanum = true :=
    starts.imp_right fun isDigit => by simp [Char.isAlphanum, isDigit]
  rw [Json.compact, written]
  exact readsAs_scalar depth alphanumeric scanned

theorem readsAs_str (value : String) :
    ReadsAs (Json.str value).compact.toList depth (.str value) := by
  intro phase stack rest expects _ _
  rw [Json.compact, tokens_escaped, readTokens_value expects stack (by simp)]
  rfl

end Plain

/-! ### Arrays -/

/-- The texts, each behind a comma. -/
def behindCommas (texts : List (List Char)) : List Char :=
  texts.flatMap fun text => ',' :: text

theorem toList_intercalate_comma (text : String) (texts : List String) :
    (",".intercalate (text :: texts)).toList =
      text.toList ++ behindCommas (texts.map String.toList) := by
  induction texts generalizing text with
  | nil => simp [behindCommas]
  | cons next rest inductionHypothesis =>
      rw [String.intercalate_cons_cons, String.toList_append, String.toList_append,
        inductionHypothesis]
      simp [behindCommas]

theorem stops_behindCommas {rest : List Char} (stops : Stops rest) (texts : List (List Char)) :
    Stops (behindCommas texts ++ rest) := by
  cases texts with
  | nil => exact stops
  | cons text texts => exact stops_cons (by decide)

section Array

variable {depth : Nat} {stack : List Frame} (shallow : stack.length + (depth + 1) ≤ depthLimit)
include shallow

theorem readTokens_items {texts : List (List Char)} {documents : List Document}
    (reads : List.Forall₂ (fun text document => ReadsAs text depth document) texts documents)
    (before : List Document) (rest : List Char) :
    readTokens .itemEnd (.array before :: stack) (tokens (behindCommas texts ++ ']' :: rest)) =
      resume (complete (.arr (before.reverse ++ documents) none) stack) (tokens rest) := by
  induction reads generalizing before with
  | nil =>
      have unlimited (container : Document) : limited stack container = container :=
        limited_of_le (by omega) container
      simp [behindCommas, tokens_closeArray, readTokens_cons, readStep, close, Frame.close,
        unlimited]
  | @cons text document texts documents headReads _ inductionHypothesis =>
      have stops : Stops (behindCommas texts ++ ']' :: rest) :=
        stops_behindCommas (stops_cons (by decide)) texts
      have headRead := headReads .item (.array before :: stack) _ trivial
        (by rw [List.length_cons]; omega) stops
      have tailRead := inductionHypothesis (document :: before)
      rw [List.reverse_cons, List.append_assoc, List.singleton_append] at tailRead
      calc readTokens .itemEnd (.array before :: stack)
            (tokens (behindCommas (text :: texts) ++ ']' :: rest))
        _ = readTokens .item (.array before :: stack)
              (tokens (text ++ (behindCommas texts ++ ']' :: rest))) := by
            simp [behindCommas, tokens_comma, readTokens_cons, readStep, resume]
        _ = readTokens .itemEnd (.array (document :: before) :: stack)
              (tokens (behindCommas texts ++ ']' :: rest)) := headRead
        _ = _ := tailRead

end Array

theorem map_toList_compactItems (items : List Json) :
    (Json.compactItems items).map String.toList = items.map fun item => item.compact.toList := by
  induction items with
  | nil => rfl
  | cons head tail inductionHypothesis =>
      rw [Json.compactItems, List.map_cons, inductionHypothesis, List.map_cons]

theorem readsAs_arr {depth : Nat} {items : List Json} {documents : List Document}
    (reads : List.Forall₂ (fun item document => ReadsAs (Json.compact item).toList depth document)
      items documents) :
    ReadsAs (Json.arr items).compact.toList (depth + 1) (.arr documents none) := by
  intro phase stack rest expects shallow _
  have unlimited (container : Document) : limited stack container = container :=
    limited_of_le (by omega) container
  cases reads with
  | nil =>
      simp [Json.compact, Json.compactItems, tokens_openArray, tokens_closeArray,
        readTokens_value expects, readTokens_cons, valueStep, readStep, resume, close, Frame.close,
        unlimited]
  | @cons item document items documents headReads tailReads =>
      generalize written : items.map (fun item => item.compact.toList) = texts
      have tailTexts : List.Forall₂ (fun text document => ReadsAs text depth document) texts
          documents := by
        rw [← written, List.forall₂_map_left_iff]
        exact tailReads
      have stops : Stops (behindCommas texts ++ ']' :: rest) :=
        stops_behindCommas (stops_cons (by decide)) texts
      have headRead := headReads .firstItem (.array [] :: stack) _ trivial
        (by rw [List.length_cons]; omega) stops
      have tailRead := readTokens_items shallow tailTexts [document] rest
      rw [Json.compact, Json.compactItems, String.toList_append, String.toList_append,
        toList_intercalate_comma, map_toList_compactItems, written]
      calc readTokens phase stack _
        _ = readTokens .firstItem (.array [] :: stack)
              (tokens (item.compact.toList ++ (behindCommas texts ++ ']' :: rest))) := by
            simp [tokens_openArray, readTokens_value expects, valueStep, resume]
        _ = readTokens .itemEnd (.array [document] :: stack)
              (tokens (behindCommas texts ++ ']' :: rest)) := headRead
        _ = _ := tailRead

/-! ### Objects -/

/-- The name and the value, as they are printed in an object. -/
def memberText (name : String) (text : List Char) : List Char :=
  (Json.escaped name).toList ++ ':' :: text

/-- A name may come next. -/
def Phase.ExpectsName : Phase → Prop
  | .firstName | .name => True
  | _ => False

section Object

variable {depth : Nat} {stack : List Frame} (shallow : stack.length + (depth + 1) ≤ depthLimit)
include shallow

theorem readTokens_member {phase : Phase} (expects : phase.ExpectsName) (name : String)
    {text : List Char} {document : Document} (reads : ReadsAs text depth document)
    (before : Members) (between : MemberName) {rest : List Char} (stops : Stops rest) :
    readTokens phase (.object before between :: stack) (tokens (memberText name text ++ rest)) =
      readTokens .memberEnd (.object ((.ok name, document) :: before) (.ok name) :: stack)
        (tokens rest) := by
  have valueRead := reads .value (.object before (.ok name) :: stack) rest trivial
    (by rw [List.length_cons]; omega) stops
  have nameRead (token : List Token) : readTokens phase (.object before between :: stack)
      (.quote (.str name) :: .colon :: token) =
        readTokens .value (.object before (.ok name) :: stack) token := by
    cases phase <;> first | exact expects.elim | rfl
  calc readTokens phase (.object before between :: stack) (tokens (memberText name text ++ rest))
    _ = readTokens phase (.object before between :: stack)
          (.quote (.str name) :: .colon :: tokens (text ++ rest)) := by
        rw [memberText, List.append_assoc, tokens_escaped, List.cons_append, tokens_colon]
    _ = _ := nameRead _
    _ = _ := valueRead

/-- The member has the name of the entry, whose text is read as the member's document. -/
def ReadsMember (depth : Nat) (entry : String × List Char) (member : MemberName × Document) :
    Prop :=
  member.1 = .ok entry.1 ∧ ReadsAs entry.2 depth member.2

theorem readTokens_members {entries : List (String × List Char)} {members : Members}
    (reads : List.Forall₂ (ReadsMember depth) entries members) (before : Members)
    (between : MemberName) (rest : List Char) :
    readTokens .memberEnd (.object before between :: stack)
        (tokens (behindCommas (entries.map fun entry => memberText entry.1 entry.2) ++
          '\x7d' :: rest)) =
      resume (complete (.obj (before.reverse ++ members) none) stack) (tokens rest) := by
  induction reads generalizing before between with
  | nil =>
      have unlimited (container : Document) : limited stack container = container :=
        limited_of_le (by omega) container
      simp [behindCommas, tokens_closeObject, readTokens_cons, readStep, close, Frame.close,
        unlimited]
  | @cons entry member entries members headReads _ inductionHypothesis =>
      obtain ⟨_, document⟩ := member
      obtain ⟨rfl, textReads⟩ := headReads
      have stops : Stops (behindCommas (entries.map fun entry => memberText entry.1 entry.2) ++
          '\x7d' :: rest) := stops_behindCommas (stops_cons (by decide)) _
      have expects : Phase.ExpectsName .name := trivial
      have headRead := readTokens_member shallow expects entry.1 textReads before between stops
      have tailRead := inductionHypothesis ((.ok entry.1, document) :: before) (.ok entry.1)
      rw [List.reverse_cons, List.append_assoc, List.singleton_append] at tailRead
      calc readTokens .memberEnd (.object before between :: stack) _
        _ = readTokens .name (.object before between :: stack) (tokens
              (memberText entry.1 entry.2 ++
                (behindCommas (entries.map fun entry => memberText entry.1 entry.2) ++
                  '\x7d' :: rest))) := by
            simp [behindCommas, tokens_comma, readTokens_cons, readStep, resume]
        _ = _ := headRead
        _ = _ := tailRead

end Object

theorem map_toList_compactMembers (entries : List (String × Json)) :
    (Json.compactMembers entries).map String.toList =
      entries.map fun entry => memberText entry.1 entry.2.compact.toList := by
  induction entries with
  | nil => rfl
  | cons head tail inductionHypothesis =>
      rw [Json.compactMembers, List.map_cons, inductionHypothesis, List.map_cons]
      simp [memberText]

theorem readsAs_obj {depth : Nat} {entries : List (String × Json)} {members : Members}
    (reads : List.Forall₂ (fun entry member =>
      ReadsMember depth (entry.1, entry.2.compact.toList) member) entries members) :
    ReadsAs (Json.obj entries).compact.toList (depth + 1) (.obj members none) := by
  intro phase stack rest expects shallow _
  have unlimited (container : Document) : limited stack container = container :=
    limited_of_le (by omega) container
  cases reads with
  | nil =>
      simp [Json.compact, Json.compactMembers, tokens_openObject, tokens_closeObject,
        readTokens_value expects, readTokens_cons, valueStep, readStep, resume, close, Frame.close,
        unlimited]
  | @cons entry member entries members headReads tailReads =>
      obtain ⟨name, value⟩ := entry
      obtain ⟨_, document⟩ := member
      obtain ⟨rfl, textReads⟩ := headReads
      generalize written :
        entries.map (fun entry => memberText entry.1 entry.2.compact.toList) = texts
      have tailTexts : List.Forall₂ (ReadsMember depth)
          (entries.map fun entry => (entry.1, entry.2.compact.toList)) members := by
        rw [List.forall₂_map_left_iff]
        exact tailReads
      have stops : Stops (behindCommas texts ++ '\x7d' :: rest) :=
        stops_behindCommas (stops_cons (by decide)) texts
      have expectsName : Phase.ExpectsName .firstName := trivial
      have headRead := readTokens_member shallow expectsName name textReads [] (.ok "") stops
      have tailRead := readTokens_members shallow tailTexts [(.ok name, document)] (.ok name) rest
      rw [List.map_map, Function.comp_def, written] at tailRead
      rw [Json.compact, Json.compactMembers, String.toList_append, String.toList_append,
        toList_intercalate_comma, map_toList_compactMembers, written]
      calc readTokens phase stack _
        _ = readTokens .firstName (.object [] (.ok "") :: stack) (tokens
              (memberText name value.compact.toList ++
                (behindCommas texts ++ '\x7d' :: rest))) := by
            simp [tokens_openObject, readTokens_value expects, valueStep, resume, memberText]
        _ = _ := headRead
        _ = _ := tailRead

/-! ### Printed values -/

mutual

/-- The document of a value as it is printed: the members are in the order of the value. -/
def written : Json → Document
  | .null => .null
  | .bool value => .bool value
  | .int value => .int value
  | .float value => .float value
  | .str value => .str value
  | .arr items => .arr (writtenItems items) none
  | .obj entries => .obj (writtenMembers entries) none

def writtenItems : List Json → List Document
  | [] => []
  | item :: rest => written item :: writtenItems rest

def writtenMembers : List (String × Json) → Members
  | [] => []
  | (name, value) :: rest => (.ok name, written value) :: writtenMembers rest

end

theorem writtenItems_eq_map (items : List Json) : writtenItems items = items.map written := by
  induction items with
  | nil => rfl
  | cons head tail inductionHypothesis => rw [writtenItems, inductionHypothesis, List.map_cons]

theorem writtenMembers_eq_map (entries : List (String × Json)) :
    writtenMembers entries = entries.map fun entry => (.ok entry.1, written entry.2) := by
  induction entries with
  | nil => rfl
  | cons head tail inductionHypothesis => rw [writtenMembers, inductionHypothesis, List.map_cons]

theorem spells_writtenMembers {entries : List (String × Json)}
    (distinct : (entries.map Prod.fst).Nodup)
    (parts : ∀ entry ∈ entries, (written entry.2).Spells entry.2) :
    (obj (writtenMembers entries) none).Spells (.obj entries) := by
  have get?_iff {name : String} {part : Json} :
      (Json.obj entries).get? name = some part ↔ (name, part) ∈ entries := by
    rw [Json.get?_obj, lookup_reverse distinct, lookup_eq_some_iff_mem distinct]
  rw [writtenMembers_eq_map]
  refine .obj ?named ?distinct (fun name => ?present) fun name document part member found => ?parts
  case named =>
    intro member among
    obtain ⟨entry, _, rfl⟩ := List.mem_map.mp among
    exact ⟨entry.1, rfl⟩
  case distinct =>
    rw [List.map_map, List.Nodup, List.pairwise_map]
    exact (List.pairwise_map.mp distinct).imp fun different same => different (Except.ok.inj same)
  case present =>
    rw [Option.isSome_iff_exists]
    simp [get?_iff]
  case parts =>
    obtain ⟨⟨other, value⟩, among, same⟩ := List.mem_map.mp member
    cases same
    cases found.symm.trans (get?_iff.mpr among)
    exact parts _ among

theorem spells_written {depth : Nat} {value : Json} (plain : value.Plain depth) :
    (written value).Spells value := by
  induction plain with
  | null => exact .null
  | bool value => exact .bool value
  | int _ => exact .int _
  | str value => exact .str value
  | arr _ inductionHypothesis =>
      rw [written, writtenItems_eq_map]
      exact .arr (List.forall₂_map_left_iff.mpr (List.forall₂_same.mpr inductionHypothesis))
  | obj distinct _ inductionHypothesis => exact spells_writtenMembers distinct inductionHypothesis

theorem readsAs_written {depth : Nat} {value : Json} (plain : value.Plain depth) :
    ReadsAs value.compact.toList depth (written value) := by
  induction plain with
  | null => exact readsAs_null _
  | bool value => exact readsAs_bool _ value
  | int fits => exact readsAs_int _ fits
  | str value => exact readsAs_str _ value
  | arr _ inductionHypothesis =>
      rw [written, writtenItems_eq_map]
      exact readsAs_arr (List.forall₂_map_right_iff.mpr (List.forall₂_same.mpr inductionHypothesis))
  | obj _ _ inductionHypothesis =>
      rw [written, writtenMembers_eq_map]
      refine readsAs_obj (List.forall₂_map_right_iff.mpr (List.forall₂_same.mpr ?_))
      exact fun entry among => ⟨rfl, inductionHypothesis entry among⟩

/-- What is printed of a plain value is read in the order in which it is printed. -/
theorem read_compact {value : Json} (plain : value.Plain depthLimit) :
    read value.compact = ⟨written value, false⟩ := by
  have readTokens_eq := readsAs_written plain .start [] [] trivial (by simp) stops_nil
  have nothing : tokens [] = [] := by simp [tokens, placedTokens]
  rw [List.append_nil] at readTokens_eq
  rw [read, readTokens_eq, nothing]
  rfl

/-- What is printed of a plain value is that value. -/
theorem writes_compact {value : Json} (plain : value.Plain depthLimit) :
    Writes value.compact value := by
  rw [Writes, read_compact plain]
  exact ⟨spells_written plain, rfl⟩

end Document

end AvailabilityGate
