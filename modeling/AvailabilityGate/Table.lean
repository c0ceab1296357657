/-!
Owns finite maps from text keys. A table holds its entries in ascending byte order of the key,
each key once, so two tables with the same entries are the same table.
-/

namespace AvailabilityGate

/-- The entries with `value` stored at `key`, in place of what was there. -/
def insertEntry {α : Type} (key : String) (value : α) :
    List (String × α) → List (String × α)
  | [] => [(key, value)]
  | entry :: rest =>
      if key < entry.1 then (key, value) :: entry :: rest
      else if key = entry.1 then (key, value) :: rest
      else entry :: insertEntry key value rest

/-- The first entry with a key is the one that is found. -/
theorem lookup_cons_eq_ite {κ α : Type} [DecidableEq κ] (key : κ) (entry : κ × α)
    (rest : List (κ × α)) :
    (entry :: rest).lookup key = if key = entry.1 then some entry.2 else rest.lookup key := by
  by_cases same : key = entry.1
  · rw [if_pos same, List.lookup_cons, same, beq_self_eq_true]
  · rw [if_neg same, List.lookup_cons, beq_false_of_ne same]

theorem lookup_insertEntry {α : Type} (key other : String) (value : α)
    (entries : List (String × α)) :
    (insertEntry key value entries).lookup other =
      if other = key then some value else entries.lookup other := by
  induction entries with
  | nil => rw [insertEntry, lookup_cons_eq_ite]
  | cons head tail inductionHypothesis =>
      rw [insertEntry]
      split
      · rw [lookup_cons_eq_ite]
      · split
        · next same =>
            rw [lookup_cons_eq_ite, lookup_cons_eq_ite, same]
            grind
        · next different =>
            rw [lookup_cons_eq_ite, lookup_cons_eq_ite, inductionHypothesis]
            grind

/-- The entries come in strictly ascending order of their keys. -/
def Ascending {α : Type} (entries : List (String × α)) : Prop :=
  entries.Pairwise fun left right => left.1 < right.1

theorem mem_insertEntry {α : Type} {key : String} {value : α} {entry : String × α}
    {entries : List (String × α)} (member : entry ∈ insertEntry key value entries) :
    entry = (key, value) ∨ entry ∈ entries := by
  induction entries with
  | nil => simpa [insertEntry] using member
  | cons head tail inductionHypothesis =>
      simp only [insertEntry] at member
      split at member
      · simpa using member
      · split at member
        · rcases List.mem_cons.mp member with same | later
          · exact .inl same
          · exact .inr (List.mem_cons_of_mem _ later)
        · rcases List.mem_cons.mp member with same | later
          · exact .inr (same ▸ List.mem_cons_self)
          · rcases inductionHypothesis later with same | old
            · exact .inl same
            · exact .inr (List.mem_cons_of_mem _ old)

theorem Ascending.insertEntry {α : Type} {entries : List (String × α)}
    (ascending : Ascending entries) (key : String) (value : α) :
    Ascending (AvailabilityGate.insertEntry key value entries) := by
  induction entries with
  | nil => exact List.pairwise_singleton _ _
  | cons head tail inductionHypothesis =>
      have headBelow : ∀ entry ∈ tail, head.1 < entry.1 := (List.pairwise_cons.mp ascending).1
      have tailAscending : Ascending tail := (List.pairwise_cons.mp ascending).2
      simp only [AvailabilityGate.insertEntry]
      split
      · next below =>
          refine List.pairwise_cons.mpr ⟨?_, ascending⟩
          intro entry member
          rcases List.mem_cons.mp member with same | later
          · exact same ▸ below
          · exact String.lt_trans below (headBelow entry later)
      · next notBelow =>
          split
          · next same =>
              exact List.pairwise_cons.mpr
                ⟨fun entry member => same ▸ headBelow entry member, tailAscending⟩
          · next different =>
              refine List.pairwise_cons.mpr ⟨?_, inductionHypothesis tailAscending⟩
              intro entry member
              rcases mem_insertEntry member with same | old
              · subst same
                exact String.not_le.mp fun keyAbove =>
                  different (String.le_antisymm keyAbove (String.not_lt.mp notBelow))
              · exact headBelow entry old

/-- Where no key comes twice, an entry is what is found at its key. -/
theorem lookup_eq_some_iff_mem {α : Type} {entries : List (String × α)}
    (distinct : (entries.map Prod.fst).Nodup) {key : String} {value : α} :
    entries.lookup key = some value ↔ (key, value) ∈ entries := by
  induction entries with
  | nil => simp
  | cons head tail inductionHypothesis =>
      obtain ⟨absent, tailDistinct⟩ := List.nodup_cons.mp distinct
      rw [lookup_cons_eq_ite, List.mem_cons]
      split
      · next same =>
          subst same
          have notLater : (head.1, value) ∉ tail := fun later =>
            absent (List.mem_map.mpr ⟨_, later, rfl⟩)
          simp [Prod.ext_iff, notLater, eq_comm]
      · next different => simp [Prod.ext_iff, different, inductionHypothesis tailDistinct]

theorem lookup_reverse {α : Type} {entries : List (String × α)}
    (distinct : (entries.map Prod.fst).Nodup) (key : String) :
    entries.reverse.lookup key = entries.lookup key := by
  have reversed : (entries.reverse.map Prod.fst).Nodup := by
    rw [List.map_reverse]
    exact (List.reverse_perm _).nodup_iff.mpr distinct
  ext value
  rw [lookup_eq_some_iff_mem reversed, lookup_eq_some_iff_mem distinct, List.mem_reverse]

namespace Ascending

variable {α : Type} {left right : List (String × α)}

theorem nodup_keys (ascending : Ascending left) : (left.map Prod.fst).Nodup :=
  List.pairwise_map.mpr (ascending.imp String.ne_of_lt)

theorem nodup (ascending : Ascending left) : left.Nodup :=
  ascending.imp fun below same => String.ne_of_lt below (congrArg Prod.fst same)

/-- Ascending lists in which the same is found are the same. -/
theorem eq_of_lookup (leftAscending : Ascending left) (rightAscending : Ascending right)
    (same : ∀ key, left.lookup key = right.lookup key) : left = right := by
  have sameEntries : ∀ entry, entry ∈ left ↔ entry ∈ right := fun entry => by
    rw [← lookup_eq_some_iff_mem leftAscending.nodup_keys,
      ← lookup_eq_some_iff_mem rightAscending.nodup_keys, same]
  have permuted : left.Perm right :=
    (List.perm_ext_iff_of_nodup leftAscending.nodup rightAscending.nodup).mpr sameEntries
  refine permuted.eq_of_pairwise (fun first second _ _ below above => ?_)
    leftAscending rightAscending
  exact absurd (String.lt_trans below above) (String.lt_irrefl _)

end Ascending

/-! ### Some of the keys -/

theorem lookup_filter {α : Type} (keep : String → Bool) (key : String)
    (entries : List (String × α)) :
    (entries.filter fun entry => keep entry.1).lookup key =
      if keep key then entries.lookup key else none := by
  induction entries with
  | nil => simp
  | cons head tail inductionHypothesis =>
      rw [List.filter_cons, lookup_cons_eq_ite]
      split
      · rw [lookup_cons_eq_ite, inductionHypothesis]
        grind
      · rw [inductionHypothesis]
        grind

theorem lookup_filterMap {α : Type} (found : String → Option α) (key : String)
    (names : List String) :
    (names.filterMap fun name => (found name).map fun value => (name, value)).lookup key =
      if key ∈ names then found key else none := by
  induction names with
  | nil => simp
  | cons head tail inductionHypothesis =>
      cases isFound : found head with
      | none =>
          rw [List.filterMap_cons_none (by simp [isFound]), inductionHypothesis]
          grind
      | some value =>
          rw [List.filterMap_cons_some (b := (head, value)) (by simp [isFound]),
            lookup_cons_eq_ite, inductionHypothesis]
          grind

theorem Ascending.of_filterMap {α : Type} (found : String → Option α) {names : List String}
    (ascending : names.Pairwise (· < ·)) :
    Ascending (names.filterMap fun name => (found name).map fun value => (name, value)) := by
  refine List.Pairwise.filterMap _ ?_ ascending
  intro left right below first isFirst second isSecond
  obtain ⟨_, _, rfl⟩ := Option.map_eq_some_iff.mp isFirst
  obtain ⟨_, _, rfl⟩ := Option.map_eq_some_iff.mp isSecond
  exact below

/-- The entries whose keys are among the names, found one by one. -/
theorem Ascending.filter_eq_filterMap {α : Type} {entries : List (String × α)}
    (ascending : Ascending entries) {names : List String} (ordered : names.Pairwise (· < ·)) :
    (entries.filter fun entry => decide (entry.1 ∈ names)) =
      names.filterMap fun name => (entries.lookup name).map fun value => (name, value) := by
  refine Ascending.eq_of_lookup (ascending.filter _) (.of_filterMap _ ordered) fun key => ?_
  rw [lookup_filter (fun key => decide (key ∈ names)), lookup_filterMap]
  simp

/-- A map from text keys, listed by key. -/
structure Table (α : Type) where
  entries : List (String × α)
  ascending : Ascending entries
deriving DecidableEq

namespace Table

def empty {α : Type} : Table α :=
  ⟨[], List.Pairwise.nil⟩

instance {α : Type} : Inhabited (Table α) := ⟨empty⟩

def insert {α : Type} (table : Table α) (key : String) (value : α) : Table α :=
  ⟨insertEntry key value table.entries, table.ascending.insertEntry key value⟩

/-- Of several entries with one key the last stands. -/
def ofList {α : Type} (entries : List (String × α)) : Table α :=
  entries.foldl (fun table entry => table.insert entry.1 entry.2) empty

def get? {α : Type} (table : Table α) (key : String) : Option α :=
  table.entries.lookup key

def contains {α : Type} (table : Table α) (key : String) : Bool :=
  (table.get? key).isSome

def keys {α : Type} (table : Table α) : List String :=
  table.entries.map Prod.fst

theorem contains_iff {α : Type} {table : Table α} {key : String} :
    table.contains key = true ↔ key ∈ table.keys := by
  have found : ∀ entries : List (String × α),
      (entries.lookup key).isSome = true ↔ key ∈ entries.map Prod.fst := by
    intro entries
    induction entries with
    | nil => simp
    | cons head tail inductionHypothesis =>
        rw [lookup_cons_eq_ite, List.map_cons, List.mem_cons, ← inductionHypothesis]
        split
        · next same => simp [same]
        · next different => simp [different]
  exact found table.entries

theorem get?_insert {α : Type} (table : Table α) (key other : String) (value : α) :
    (table.insert key value).get? other = if other = key then some value else table.get? other :=
  lookup_insertEntry key other value table.entries

theorem get?_foldl_insert {α : Type} (entries : List (String × α)) (table : Table α)
    (key : String) :
    (entries.foldl (fun table entry => table.insert entry.1 entry.2) table).get? key =
      (entries.reverse.lookup key).or (table.get? key) := by
  induction entries generalizing table with
  | nil => rfl
  | cons head tail inductionHypothesis =>
      rw [List.foldl_cons, inductionHypothesis, get?_insert, List.reverse_cons,
        List.lookup_append, Option.or_assoc, lookup_cons_eq_ite]
      split <;> rfl

theorem get?_ofList {α : Type} (entries : List (String × α)) (key : String) :
    (ofList entries).get? key = entries.reverse.lookup key := by
  rw [ofList, get?_foldl_insert]
  exact Option.or_none

theorem mem_entries_iff {α : Type} {table : Table α} {key : String} {value : α} :
    (key, value) ∈ table.entries ↔ table.get? key = some value :=
  (lookup_eq_some_iff_mem table.ascending.nodup_keys).symm

theorem mem_of_mem_ofList {α : Type} {entries : List (String × α)} {entry : String × α}
    (member : entry ∈ (ofList entries).entries) : entry ∈ entries := by
  have found := mem_entries_iff.mp member
  rw [get?_ofList, List.lookup_eq_some_iff] at found
  obtain ⟨before, after, split, _⟩ := found
  rw [← List.mem_reverse, split]
  simp

/-- A table is what is found in it. -/
theorem eq_of_get? {α : Type} {left right : Table α}
    (same : ∀ key, left.get? key = right.get? key) : left = right := by
  cases left
  cases right
  congr 1
  exact Ascending.eq_of_lookup ‹_› ‹_› same

theorem ofList_entries {α : Type} (table : Table α) : ofList table.entries = table := by
  refine eq_of_get? fun key => ?_
  rw [get?_ofList, lookup_reverse table.ascending.nodup_keys, get?]

end Table

end AvailabilityGate
