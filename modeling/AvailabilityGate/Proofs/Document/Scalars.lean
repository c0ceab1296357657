import AvailabilityGate.Document.Reader
import AvailabilityGate.Json.Printer
import Mathlib.Data.List.Basic

/-!
Owns the tokens of strings and whole numbers that were written by the printer.
-/

namespace AvailabilityGate.Document

/-! ### Strings -/

namespace QuoteScan

/-- A scan of a string that has met nothing but characters. -/
def having (reversed : List Char) : QuoteScan :=
  { reversed }

section Escapes

variable (reversed rest : List Char)

theorem run_plain {c : Char} (notQuote : c ≠ '"') (notEscape : c ≠ '\\')
    (printable : 0x20 ≤ c.toNat) :
    (having reversed).run (c :: rest) = (having (c :: reversed)).run rest := by
  have visible : ¬ c.toNat < 0x20 := Nat.not_lt.mpr printable
  rw [run]
  simp [step, having, plainStep, notQuote, notEscape, visible, put]

theorem run_escape {mark c : Char}
    (escapes : ∀ scan : QuoteScan, scan.escapeStep mark = .more (scan.put c)) :
    (having reversed).run ('\\' :: mark :: rest) = (having (c :: reversed)).run rest := by
  have notQuote : '\\' ≠ '"' := by decide
  rw [run]
  simp [step, having, plainStep, notQuote, run, escapes, put]

theorem hexValue?_digitChar : ∀ digit < 16, hexValue? (Nat.digitChar digit) = some digit := by
  decide

theorem run_hex {c : Char} (low : c.toNat < 0x20) :
    (having reversed).run ('\\' :: 'u' :: '0' :: '0' :: Nat.digitChar (c.toNat / 16) ::
        Nat.digitChar (c.toNat % 16) :: rest) = (having (c :: reversed)).run rest := by
  have zero : hexValue? '0' = some 0 := hexValue?_digitChar 0 (by omega)
  have high := hexValue?_digitChar (c.toNat / 16) (by omega)
  have last := hexValue?_digitChar (c.toNat % 16) (by omega)
  have value : c.toNat / 16 * 16 + c.toNat % 16 = c.toNat := Nat.div_add_mod' _ _
  have noSurrogate : ¬ (0xdc00 ≤ c.toNat) ∧ ¬ (0xd800 ≤ c.toNat) := by omega
  simp [run, step, having, plainStep, escapeStep, zero, high, last, value, unit, noSurrogate, put,
    Char.ofNat_toNat]

theorem run_escapedChar (c : Char) :
    (having reversed).run (Json.escapedChar c ++ rest) = (having (c :: reversed)).run rest := by
  unfold Json.escapedChar
  split
  case h_8 =>
    split
    · next low => exact run_hex reversed rest low
    · next visible => exact run_plain reversed rest ‹_› ‹_› (Nat.not_lt.mp visible)
  all_goals exact run_escape reversed rest fun scan => rfl

theorem run_escaped (text : List Char) :
    (having reversed).run (text.flatMap Json.escapedChar ++ '"' :: rest) =
      (.str (String.ofList (reversed.reverse ++ text)), rest) := by
  induction text generalizing reversed with
  | nil => simp [run, step, having, plainStep, finish]
  | cons c text inductionHypothesis =>
      rw [List.flatMap_cons, List.append_assoc, run_escapedChar, inductionHypothesis]
      simp

end Escapes

end QuoteScan

/-! ### Whole numbers -/

/-- What may stand behind a number without belonging to it. -/
def Stops (rest : List Char) : Prop :=
  ∀ c tail, rest = c :: tail → c.isDigit = false ∧ c ≠ '.' ∧ c ≠ 'e' ∧ c ≠ 'E'

theorem wholeValue_toDigits (value : Nat) : Numeral.wholeValue (Nat.toDigits 10 value) = value := by
  have sameFold : Numeral.wholeValue (Nat.toDigits 10 value) =
      Nat.ofDigitChars 10 (Nat.toDigits 10 value) 0 := by
    simp [Numeral.wholeValue, Nat.ofDigitChars_eq_foldl, Numeral.digitValue, Nat.mul_comm]
  rw [sameFold, Nat.ofDigitChars_ten_toDigits]

theorem digitChar_ne_zero : ∀ digit < 10, digit ≠ 0 → Nat.digitChar digit ≠ '0' := by
  decide

/-- Only zero is written with a zero in front. -/
theorem head?_toDigits_ne_zero {value : Nat} (positive : value ≠ 0) :
    (Nat.toDigits 10 value).head? ≠ some '0' := by
  induction value using Nat.strongRecOn with
  | ind value inductionHypothesis =>
      rw [Nat.toDigits_eq_if (by omega)]
      split
      · next small => simpa using digitChar_ne_zero value small positive
      · next large =>
          rw [List.head?_append_of_ne_nil _ Nat.toDigits_ne_nil]
          exact inductionHypothesis (value / 10) (by omega) (by omega)

theorem scanNumber_toDigits (negative : Bool) {value : Nat} {first : Char} {digits : List Char}
    (written : Nat.toDigits 10 value = first :: digits) {rest : List Char} (stops : Stops rest) :
    scanNumber negative first (digits ++ rest) =
      (Numeral.document ⟨Nat.toDigits 10 value, [], none⟩ negative, rest) := by
  have allDigits : ∀ c ∈ digits, c.isDigit = true := fun c member =>
    Nat.isDigit_of_mem_toDigits (by omega) (by omega) (written ▸ List.mem_cons_of_mem first member)
  have behind : rest.takeWhile Char.isDigit = [] ∧ rest.dropWhile Char.isDigit = rest := by
    cases rest with
    | nil => simp
    | cons c tail => simp [(stops c tail rfl).1]
  have wellFormed : ¬ (first = '0' ∧ 1 < (first :: digits).length) := by
    rintro ⟨rfl, long⟩
    by_cases positive : value = 0
    · subst positive
      obtain rfl : [] = digits := (List.cons.inj written).2
      simp at long
    · exact head?_toDigits_ne_zero positive (by rw [written, List.head?_cons])
  have noExponent : scanTail negative (first :: digits) [] rest =
      (Numeral.document ⟨first :: digits, [], none⟩ negative, rest) := by
    unfold scanTail
    split
    · next tail => exact absurd rfl (stops 'e' tail rfl).2.2.1
    · next tail => exact absurd rfl (stops 'E' tail rfl).2.2.2
    · rfl
  unfold scanNumber
  simp only [List.takeWhile_append_of_pos allDigits, List.dropWhile_append_of_pos allDigits,
    behind, List.append_nil, if_neg wellFormed, written]
  split
  · next tail => exact absurd rfl (stops '.' tail rfl).2.1
  · exact noExponent

/-- Whole numbers that are read as they are: those that fit 64 bits, with or without sign. -/
def FitsWord (value : Int) : Prop :=
  -9223372036854775808 ≤ value ∧ value < 18446744073709551616

instance (value : Int) : Decidable (FitsWord value) :=
  inferInstanceAs (Decidable (_ ∧ _))

theorem document_natural {value : Nat} (fits : value < Numeral.wordLimit) :
    Numeral.document ⟨Nat.toDigits 10 value, [], none⟩ false = .int value := by
  simp [Numeral.document, wholeValue_toDigits, fits]

theorem document_negative {value : Nat} (positive : 0 < value)
    (fits : value ≤ Numeral.signedLimit) :
    Numeral.document ⟨Nat.toDigits 10 value, [], none⟩ true = .int (-value) := by
  simp [Numeral.document, wholeValue_toDigits, positive, fits]

/-- The first character of a written number, and what a reader makes of it. -/
theorem exists_scanScalar_int {value : Int} (fits : FitsWord value) :
    ∃ first tail, (toString value).toList = first :: tail ∧ (first = '-' ∨ first.isDigit = true) ∧
      ∀ rest, Stops rest → scanScalar first (tail ++ rest) = (.int value, rest) := by
  cases value with
  | ofNat value =>
      have written : (toString (Int.ofNat value)).toList = Nat.toDigits 10 value := Nat.toList_repr
      rw [written]
      cases digits : Nat.toDigits 10 value with
      | nil => exact absurd digits Nat.toDigits_ne_nil
      | cons first tail =>
          have isDigit : first.isDigit = true :=
            Nat.isDigit_of_mem_toDigits (by omega) (by omega) (digits ▸ List.mem_cons_self)
          refine ⟨first, tail, rfl, .inr isDigit, fun rest stops => ?_⟩
          have scanned := scanNumber_toDigits false digits stops
          rw [document_natural (Int.ofNat_lt.mp fits.2)] at scanned
          unfold scanScalar
          split
          case h_5 => rw [if_pos isDigit, scanned]; rfl
          all_goals simp at isDigit
  | negSucc value =>
      have written : (toString (Int.negSucc value)).toList =
          '-' :: Nat.toDigits 10 (value + 1) := by
        show ("-" ++ (value + 1).repr).toList = _
        rw [String.toList_append, Nat.toList_repr]
        rfl
      rw [written]
      refine ⟨'-', _, rfl, .inl rfl, fun rest stops => ?_⟩
      cases digits : Nat.toDigits 10 (value + 1) with
      | nil => exact absurd digits Nat.toDigits_ne_nil
      | cons first tail =>
          have isDigit : first.isDigit = true :=
            Nat.isDigit_of_mem_toDigits (by omega) (by omega) (digits ▸ List.mem_cons_self)
          have scanned := scanNumber_toDigits true digits stops
          have small : value + 1 ≤ Numeral.signedLimit := by
            have lower := fits.1
            unfold Numeral.signedLimit
            omega
          have sameValue : -(value.succ : Int) = Int.negSucc value := rfl
          rw [document_negative (Nat.succ_pos value) small, sameValue] at scanned
          simp [scanScalar, isDigit, scanned]

end AvailabilityGate.Document
