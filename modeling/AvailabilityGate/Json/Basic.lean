import AvailabilityGate.Table

/-!
Owns JSON values. An object is a list of members; what it means is the map from names to the last
member of that name, and `Json.members` is that map by ascending name.

Does not own JSON text: see `AvailabilityGate.Document` for reading and
`AvailabilityGate.Json.Printer` for writing.
-/

namespace AvailabilityGate

inductive Json where
  | null
  | bool (value : Bool)
  | int (value : Int)
  | float (value : Float)
  | str (value : String)
  | arr (items : List Json)
  | obj (members : List (String × Json))
deriving Inhabited

namespace Json

/-! ### Equality -/

mutual

def same : Json → Json → Bool
  | .null, .null => true
  | .bool left, .bool right => left = right
  | .int left, .int right => left = right
  | .float left, .float right => left = right
  | .str left, .str right => left = right
  | .arr left, .arr right => sameItems left right
  | .obj left, .obj right => sameMembers left right
  | _, _ => false

def sameItems : List Json → List Json → Bool
  | [], [] => true
  | left :: lefts, right :: rights => left.same right && sameItems lefts rights
  | _, _ => false

def sameMembers : List (String × Json) → List (String × Json) → Bool
  | [], [] => true
  | (name, left) :: lefts, (other, right) :: rights =>
      name = other && left.same right && sameMembers lefts rights
  | _, _ => false

end

mutual

theorem same_iff (left right : Json) : left.same right = true ↔ left = right := by
  match left with
  | .null | .bool _ | .int _ | .float _ | .str _ => cases right <;> simp [same]
  | .arr items =>
      cases right with
      | arr others => simp [same, sameItems_iff items others]
      | _ => simp [same]
  | .obj members =>
      cases right with
      | obj others => simp [same, sameMembers_iff members others]
      | _ => simp [same]

theorem sameItems_iff (left right : List Json) : sameItems left right = true ↔ left = right := by
  match left, right with
  | [], [] | [], _ :: _ | _ :: _, [] => simp [sameItems]
  | item :: items, other :: others =>
      simp [sameItems, same_iff item other, sameItems_iff items others]

theorem sameMembers_iff (left right : List (String × Json)) :
    sameMembers left right = true ↔ left = right := by
  match left, right with
  | [], [] | [], _ :: _ | _ :: _, [] => simp [sameMembers]
  | (_, value) :: members, (_, other) :: others =>
      simp [sameMembers, same_iff value other, sameMembers_iff members others, and_assoc]

end

instance : DecidableEq Json := fun left right => decidable_of_iff _ (same_iff left right)

/-! ### Members -/

/-- The members of an object by ascending name, the last of each name. -/
def members (entries : List (String × Json)) : List (String × Json) :=
  (Table.ofList entries).entries

/-- In every object the names ascend, each once. -/
inductive Settled : Json → Prop
  | null : Settled .null
  | bool (value : Bool) : Settled (.bool value)
  | int (value : Int) : Settled (.int value)
  | float (value : Float) : Settled (.float value)
  | str (value : String) : Settled (.str value)
  | arr {items : List Json} (each : ∀ item ∈ items, Settled item) : Settled (.arr items)
  | obj {entries : List (String × Json)} (ascending : Ascending entries)
      (each : ∀ entry ∈ entries, Settled entry.2) : Settled (.obj entries)

theorem settled_members {entries : List (String × Json)}
    (each : ∀ entry ∈ entries, entry.2.Settled) : (Json.obj (members entries)).Settled :=
  .obj (Table.ascending _) fun entry member => each entry (Table.mem_of_mem_ofList member)

def get? (name : String) : Json → Option Json
  | .obj entries => (Table.ofList entries).get? name
  | _ => none

theorem get?_obj (name : String) (entries : List (String × Json)) :
    (Json.obj entries).get? name = entries.reverse.lookup name :=
  Table.get?_ofList entries name

/-- The value, with `null` and a missing value taken for the same. -/
def ofOption {α : Type} (encode : α → Json) : Option α → Json
  | none => .null
  | some value => encode value

/-- A member that is written only when it has a value. -/
def optional {α : Type} (name : String) (encode : α → Json) :
    Option α → List (String × Json)
  | none => []
  | some value => [(name, encode value)]

def ofTable {α : Type} (encode : α → Json) (table : Table α) : Json :=
  .obj (table.entries.map fun entry => (entry.1, encode entry.2))

end Json

end AvailabilityGate
