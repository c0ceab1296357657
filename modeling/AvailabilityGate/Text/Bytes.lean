/-!
Owns the size of a text in bytes of UTF-8, in which the limits on labels and addresses are given.
-/

namespace AvailabilityGate.Text

/-- The bytes that a text takes. -/
def byteLength : List Char → Nat
  | [] => 0
  | c :: rest => c.utf8Size + byteLength rest

theorem byteLength_toList (text : String) : byteLength text.toList = text.utf8ByteSize := by
  have sizeOfList : ∀ chars : List Char, (String.ofList chars).utf8ByteSize = byteLength chars := by
    intro chars
    induction chars with
    | nil => rfl
    | cons c rest inductionHypothesis =>
        rw [String.ofList_cons, String.utf8ByteSize_append, inductionHypothesis, byteLength]
        simp
  rw [← sizeOfList, String.ofList_toList]

end AvailabilityGate.Text
