import Mathlib.Tactic.SplitIfs

/-!
Owns the order of texts by their bytes in UTF-8, in which names are compared. It is the order of
texts by their characters: a smaller character has the smaller encoding, whatever follows.
-/

namespace AvailabilityGate.Text

/-- The bytes of a text in UTF-8. -/
def bytes (text : String) : List UInt8 :=
  text.toUTF8.data.toList

theorem bytes_eq_flatMap (text : String) :
    bytes text = text.toList.flatMap String.utf8EncodeChar := by
  have bytesOfList : ∀ chars : List Char,
      bytes (String.ofList chars) = chars.flatMap String.utf8EncodeChar := by
    intro chars
    show (List.toByteArray _).data.toList = _
    exact List.toList_data_toByteArray
  rw [← bytesOfList, String.ofList_toList]

private theorem ofNat_lt_ofNat_iff {m n : Nat} (left : m < 256) (right : n < 256) :
    UInt8.ofNat m < UInt8.ofNat n ↔ m < n := by
  rw [UInt8.lt_iff_toNat_lt, UInt8.toNat_ofNat', UInt8.toNat_ofNat', Nat.mod_eq_of_lt left,
    Nat.mod_eq_of_lt right]

private theorem ofNat_eq_ofNat_iff {m n : Nat} (left : m < 256) (right : n < 256) :
    UInt8.ofNat m = UInt8.ofNat n ↔ m = n := by
  rw [← UInt8.toNat_inj, UInt8.toNat_ofNat', UInt8.toNat_ofNat', Nat.mod_eq_of_lt left,
    Nat.mod_eq_of_lt right]

/-- The encodings of two characters compare like the characters, and what follows them does not
matter. -/
theorem utf8EncodeChar_append_lt {c d : Char} (below : c < d) (left right : List UInt8) :
    String.utf8EncodeChar c ++ left < String.utf8EncodeChar d ++ right := by
  have codesBelow : c.val.toNat < d.val.toNat := below
  have codeLimit : d.val.toNat < 1114112 := by
    rcases d.valid with low | high
    · exact Nat.lt_trans low (by decide)
    · exact high.2
  simp only [String.utf8EncodeChar]
  generalize c.val.toNat = smaller at *
  generalize d.val.toNat = greater at *
  -- One case for each pair of lengths; the first byte where the encodings differ decides.
  split_ifs <;>
    simp (disch := omega) only [List.cons_append, List.nil_append, List.cons_lt_cons_iff,
      ofNat_lt_ofNat_iff, ofNat_eq_ofNat_iff, Nat.mod_eq_of_lt] <;>
    omega

private theorem append_lt_append_iff (shared left right : List UInt8) :
    shared ++ left < shared ++ right ↔ left < right := by
  induction shared with
  | nil => rfl
  | cons byte rest inductionHypothesis =>
      rw [List.cons_append, List.cons_append, List.cons_lt_cons_iff, inductionHypothesis]
      simp

theorem flatMap_utf8EncodeChar_lt_iff (left right : List Char) :
    left.flatMap String.utf8EncodeChar < right.flatMap String.utf8EncodeChar ↔ left < right := by
  induction left generalizing right with
  | nil =>
      cases right with
      | nil => simp
      | cons d rest =>
          have encoded := String.utf8EncodeChar_ne_nil (c := d)
          cases bytesOfHead : String.utf8EncodeChar d with
          | nil => exact absurd bytesOfHead encoded
          | cons byte more => simp [bytesOfHead]
  | cons c tail inductionHypothesis =>
      cases right with
      | nil => simp
      | cons d rest =>
          rw [List.flatMap_cons, List.flatMap_cons, List.cons_lt_cons_iff]
          by_cases below : c < d
          · simp [below, utf8EncodeChar_append_lt below]
          · by_cases above : d < c
            · have different : c ≠ d := fun same => Char.lt_irrefl c (same ▸ above)
              have notEncodedBelow := List.lt_asymm (utf8EncodeChar_append_lt above
                (rest.flatMap String.utf8EncodeChar) (tail.flatMap String.utf8EncodeChar))
              simp [different, below, notEncodedBelow]
            · have same : c = d :=
                Char.le_antisymm (Char.not_lt.mp above) (Char.not_lt.mp below)
              subst same
              rw [append_lt_append_iff, inductionHypothesis]
              simp

/-- Texts compare like their bytes. -/
theorem bytes_lt_bytes_iff (left right : String) : bytes left < bytes right ↔ left < right := by
  rw [bytes_eq_flatMap, bytes_eq_flatMap, flatMap_utf8EncodeChar_lt_iff]
  rfl

theorem bytes_le_bytes_iff (left right : String) : bytes left ≤ bytes right ↔ left ≤ right := by
  rw [← List.not_lt, bytes_lt_bytes_iff, String.not_lt]

end AvailabilityGate.Text
