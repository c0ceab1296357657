import AvailabilityGate.Bound.Scaling
import AvailabilityGate.Proofs.Decode.Recovery
import Mathlib.Data.List.Induction
import Mathlib.Data.Nat.Digits.Defs

/-!
Owns the grammar of percentages, and what a reader makes of it that goes from digit to digit.

A digit moves a number away from zero, never back. So a number that leaves 32 bits on the way does
not fit at its end, and the reader refuses no percentage that fits.

Main statement: a text resolves exactly if it is a number that fits 32 bits, in one or more decimal
digits behind an optional sign and in front of one percent sign. Then that is the number that is
scaled; every other text is handed back as it is.
-/

namespace AvailabilityGate

namespace Percentage

/-! ### The grammar -/

/-- One or more decimal digits. -/
structure IsNumeral (digits : List Char) : Prop where
  nonempty : digits ≠ []
  digits : ∀ digit ∈ digits, '0' ≤ digit ∧ digit ≤ '9'

instance (digits : List Char) : Decidable (IsNumeral digits) :=
  decidable_of_iff (digits ≠ [] ∧ digits.all fun digit => '0' ≤ digit ∧ digit ≤ '9')
    ⟨fun both => ⟨both.1, by simpa using both.2⟩,
      fun numeral => ⟨numeral.nonempty, by simpa using numeral.digits⟩⟩

/-- The value of digits in decimal notation, without any limit; the last one counts the units. -/
def decimal (digits : List Char) : Nat :=
  Nat.ofDigits 10 (digits.reverse.map fun digit => digit.toNat - '0'.toNat)

/-- Digits behind an optional sign, and the number that they stand for. -/
inductive Spells : List Char → Int → Prop where
  | unsigned {digits : List Char} (numeral : IsNumeral digits) : Spells digits (decimal digits)
  | plus {digits : List Char} (numeral : IsNumeral digits) :
      Spells ('+' :: digits) (decimal digits)
  | minus {digits : List Char} (numeral : IsNumeral digits) :
      Spells ('-' :: digits) (-decimal digits)

/-- A number with a percent sign behind it. -/
def Denotes (text : String) (number : Int) : Prop :=
  ∃ written, Spells written number ∧ text.toList = written ++ ['%']

/-- What can keep a text from being a percentage. -/
inductive Unfit (text : String) : Prop where
  /-- A count by itself has no percent sign; and one is enough. -/
  | percentSigns (other : text.toList.count '%' ≠ 1)
  /-- Blanks, points, letters. -/
  | foreign {c : Char} (member : c ∈ text.toList)
      (strange : ¬ (c = '+' ∨ c = '-' ∨ c = '%' ∨ '0' ≤ c ∧ c ≤ '9'))
  | noDigit (digitless : ∀ c ∈ text.toList, ¬ ('0' ≤ c ∧ c ≤ '9'))
  | outOfRange {number : Int} (denotes : Denotes text number)
      (outside : ¬ (-2 ^ 31 ≤ number ∧ number ≤ 2 ^ 31 - 1))

theorem isDigit_iff {c : Char} : c.isDigit = true ↔ '0' ≤ c ∧ c ≤ '9' := by
  simp only [Char.isDigit, Bool.and_eq_true, decide_eq_true_eq]
  rfl

theorem decimal_append (digits : List Char) (digit : Char) :
    decimal (digits ++ [digit]) = decimal digits * 10 + (digit.toNat - '0'.toNat) := by
  unfold decimal
  rw [List.reverse_append, List.reverse_singleton, List.singleton_append, List.map_cons,
    Nat.ofDigits_cons]
  omega

/-! ### Reading digit by digit -/

section Digits

variable {negative : Bool} {digits : List Char} {digit : Char} {value next number : Int32}

theorem fitted?_eq_some_iff {value : Int} : fitted? value = some number ↔ number.toInt = value := by
  have fitsNumber := Decode.fitsInt32_toInt number
  unfold fitted?
  split
  · next fits =>
      rw [Option.some.injEq]
      constructor
      · rintro rfl
        exact Int32.toInt_ofInt_of_le fits.1 (Int.lt_add_one_iff.mpr fits.2)
      · rintro rfl
        exact Int32.ofInt_toInt number
  · next outside =>
      simp only [reduceCtorEq, false_iff]
      rintro rfl
      exact outside fitsNumber

/-- A whole number on one side of zero. -/
def signed (negative : Bool) (magnitude : Nat) : Int :=
  if negative then -magnitude else magnitude

/-- What fits away from zero fits nearer to it. -/
theorem exists_toInt_eq_signed {magnitude larger : Nat} (nearer : magnitude ≤ larger)
    (nextIs : next.toInt = signed negative larger) :
    ∃ value : Int32, value.toInt = signed negative magnitude := by
  obtain ⟨low, high⟩ := Decode.fitsInt32_toInt next
  have fits : Decode.FitsInt32 (signed negative magnitude) := by
    unfold signed at nextIs ⊢
    cases negative with
    | false => constructor <;> simp only [Bool.false_eq_true, if_false] at * <;> omega
    | true => constructor <;> simp only [if_true] at * <;> omega
  exact ⟨Int32.ofInt (signed negative magnitude), fitted?_eq_some_iff.mp (if_pos fits)⟩

/-- One step on the way of a number from zero. -/
theorem pushDigit?_eq_some_iff {magnitude : Nat}
    (valueIs : value.toInt = signed negative magnitude) :
    pushDigit? negative value digit = some next ↔
      digit.isDigit = true ∧
        next.toInt = signed negative (magnitude * 10 + (digit.toNat - '0'.toNat)) := by
  have tensAre : value.toInt * 10 = signed negative (magnitude * 10) := by
    rw [valueIs]
    unfold signed
    split <;> omega
  have pushed : ∀ tens : Int32, tens.toInt = signed negative (magnitude * 10) →
      (if negative then tens.toInt - ((digit.toNat - '0'.toNat : Nat) : Int)
        else tens.toInt + ((digit.toNat - '0'.toNat : Nat) : Int)) =
      signed negative (magnitude * 10 + (digit.toNat - '0'.toNat)) := by
    intro tens tensIs
    rw [tensIs]
    unfold signed
    split <;> omega
  unfold pushDigit?
  simp only [Option.bind_eq_bind, Option.bind_eq_some_iff, fitted?_eq_some_iff, tensAre]
  constructor
  · intro pushes
    obtain ⟨tens, tensIs, pushes⟩ := pushes
    split at pushes
    · next isDigit =>
        rw [fitted?_eq_some_iff, pushed tens tensIs] at pushes
        exact ⟨isDigit, pushes⟩
    · cases pushes
  · intro both
    obtain ⟨isDigit, nextIs⟩ := both
    obtain ⟨tens, tensIs⟩ := exists_toInt_eq_signed (Nat.le_add_right _ _) nextIs
    refine ⟨tens, tensIs, ?_⟩
    rw [if_pos isDigit, fitted?_eq_some_iff, pushed tens tensIs]
    exact nextIs

/-- All steps together: the invariant is that the digits so far give the number so far. -/
theorem foldlM_pushDigit?_eq_some_iff :
    digits.foldlM (pushDigit? negative) 0 = some number ↔
      (∀ digit ∈ digits, digit.isDigit = true) ∧ number.toInt = signed negative (decimal digits) := by
  induction digits using List.reverseRecOn generalizing number with
  | nil =>
      have zero : signed negative (decimal []) = (0 : Int32).toInt := by cases negative <;> rfl
      rw [zero, Int32.toInt_inj, List.foldlM_nil, Option.pure_def, Option.some.injEq, eq_comm]
      exact (and_iff_right fun digit member => absurd member List.not_mem_nil).symm
  | append_singleton before digit inductionHypothesis =>
      rw [List.foldlM_append, Option.bind_eq_bind, Option.bind_eq_some_iff, decimal_append]
      simp only [List.foldlM_cons, List.foldlM_nil, Option.bind_eq_bind, Option.pure_def,
        Option.bind_fun_some, List.mem_append, List.mem_singleton, or_imp, forall_and, forall_eq]
      constructor
      · intro steps
        obtain ⟨value, reads, pushes⟩ := steps
        obtain ⟨allDigits, valueIs⟩ := inductionHypothesis.mp reads
        obtain ⟨isDigit, numberIs⟩ := (pushDigit?_eq_some_iff valueIs).mp pushes
        exact ⟨⟨allDigits, isDigit⟩, numberIs⟩
      · intro all
        obtain ⟨⟨allDigits, isDigit⟩, numberIs⟩ := all
        have nearer : decimal before ≤ decimal before * 10 + (digit.toNat - '0'.toNat) := by omega
        obtain ⟨value, valueIs⟩ := exists_toInt_eq_signed nearer numberIs
        exact ⟨value, inductionHypothesis.mpr ⟨allDigits, valueIs⟩,
          (pushDigit?_eq_some_iff valueIs).mpr ⟨isDigit, numberIs⟩⟩

theorem number?_eq_some_iff :
    number? negative digits = some number ↔
      IsNumeral digits ∧ number.toInt = signed negative (decimal digits) := by
  unfold number?
  split
  · next empty =>
      simp only [reduceCtorEq, false_iff, not_and]
      intro numeral
      exact absurd empty numeral.nonempty
  · next nonempty =>
      rw [foldlM_pushDigit?_eq_some_iff]
      simp only [isDigit_iff]
      refine and_congr_left' ⟨fun digits => ⟨nonempty, digits⟩, IsNumeral.digits⟩

end Digits

/-! ### Reading a text -/

section Text

variable {text : List Char} {number : Int32}

/-- A sign is no digit. -/
theorem IsNumeral.ne_sign {digits : List Char} (numeral : IsNumeral digits) {sign : Char}
    (isSign : sign = '+' ∨ sign = '-') {rest : List Char} : digits ≠ sign :: rest := by
  rintro rfl
  have isDigit := numeral.digits sign List.mem_cons_self
  rcases isSign with rfl | rfl <;> exact absurd isDigit (by decide)

theorem integer?_eq_some_iff : integer? text = some number ↔ Spells text number.toInt := by
  unfold integer?
  split
  · next digits =>
      rw [number?_eq_some_iff]
      constructor
      · rintro ⟨numeral, numberIs⟩
        exact numberIs ▸ .plus numeral
      · intro spells
        generalize number.toInt = value at spells ⊢
        cases spells with
        | unsigned numeral => exact absurd rfl (numeral.ne_sign (.inl rfl))
        | plus numeral => exact ⟨numeral, rfl⟩
  · next digits =>
      rw [number?_eq_some_iff]
      constructor
      · rintro ⟨numeral, numberIs⟩
        exact numberIs ▸ .minus numeral
      · intro spells
        generalize number.toInt = value at spells ⊢
        cases spells with
        | unsigned numeral => exact absurd rfl (numeral.ne_sign (.inr rfl))
        | minus numeral => exact ⟨numeral, rfl⟩
  · next noPlus noMinus =>
      rw [number?_eq_some_iff]
      constructor
      · rintro ⟨numeral, numberIs⟩
        exact numberIs ▸ .unsigned numeral
      · intro spells
        generalize number.toInt = value at spells ⊢
        cases spells with
        | unsigned numeral => exact ⟨numeral, rfl⟩
        | plus numeral => exact absurd rfl (noPlus _)
        | minus numeral => exact absurd rfl (noMinus _)

theorem stripSign_eq_some_iff {written : List Char} :
    stripSign text = some written ↔ text = written ++ ['%'] := by
  unfold stripSign
  split
  · next last =>
      obtain ⟨front, rfl⟩ := List.getLast?_eq_some_iff.mp last
      simp
  · next noPercentSign =>
      simp only [reduceCtorEq, false_iff]
      rintro rfl
      exact noPercentSign List.getLast?_concat

/-- The reader finds exactly the numbers that the grammar gives. -/
theorem parse?_eq_some_iff {written : String} :
    parse? written = some number ↔ Denotes written number.toInt := by
  unfold parse? Denotes
  simp only [Option.bind_eq_bind, Option.bind_eq_some_iff, stripSign_eq_some_iff,
    integer?_eq_some_iff]
  constructor
  · rintro ⟨front, textIs, spells⟩
    exact ⟨front, spells, textIs⟩
  · rintro ⟨front, spells, textIs⟩
    exact ⟨front, textIs, spells⟩

end Text

/-! ### Numbers that are written out -/

theorem decimal_eq_ofDigitChars (digits : List Char) :
    decimal digits = Nat.ofDigitChars 10 digits 0 := by
  induction digits using List.reverseRecOn with
  | nil => rfl
  | append_singleton before digit inductionHypothesis =>
      rw [decimal_append, inductionHypothesis]
      simp [Nat.ofDigitChars_eq_foldl, Nat.mul_comm]

theorem isNumeral_toDigits (value : Nat) : IsNumeral (Nat.toDigits 10 value) where
  nonempty := Nat.toDigits_ne_nil
  digits := fun _ member =>
    isDigit_iff.mp (Nat.isDigit_of_mem_toDigits (by omega) (by omega) member)

theorem decimal_toDigits (value : Nat) : decimal (Nat.toDigits 10 value) = value := by
  rw [decimal_eq_ofDigitChars, Nat.ofDigitChars_ten_toDigits]

theorem spells_toString (value : Int) : Spells (toString value).toList value := by
  cases value with
  | ofNat value =>
      have written : (toString (Int.ofNat value)).toList = Nat.toDigits 10 value := Nat.toList_repr
      have spells := Spells.unsigned (isNumeral_toDigits value)
      rwa [decimal_toDigits, ← written] at spells
  | negSucc value =>
      have written : (toString (Int.negSucc value)).toList =
          '-' :: Nat.toDigits 10 (value + 1) := by
        show ("-" ++ (value + 1).repr).toList = _
        rw [String.toList_append, Nat.toList_repr]
        rfl
      have spells := Spells.minus (isNumeral_toDigits (value + 1))
      rwa [decimal_toDigits, ← written] at spells

theorem denotes_toString (value : Int) : Denotes (toString value ++ "%") value :=
  ⟨_, spells_toString value, String.toList_append⟩

/-- A number in front of a percent sign is read back. -/
theorem parse?_toString (percent : Int32) :
    parse? (toString percent.toInt ++ "%") = some percent :=
  parse?_eq_some_iff.mpr (denotes_toString percent.toInt)

/-! ### Texts that are no percentages -/

theorem Spells.unique {text : List Char} {number other : Int} (spells : Spells text number)
    (otherSpells : Spells text other) : number = other := by
  cases spells with
  | unsigned numeral =>
      cases otherSpells with
      | unsigned _ => rfl
      | plus _ => exact absurd rfl (numeral.ne_sign (.inl rfl))
      | minus _ => exact absurd rfl (numeral.ne_sign (.inr rfl))
  | plus _ =>
      cases otherSpells with
      | unsigned numeral => exact absurd rfl (numeral.ne_sign (.inl rfl))
      | plus _ => rfl
  | minus _ =>
      cases otherSpells with
      | unsigned numeral => exact absurd rfl (numeral.ne_sign (.inr rfl))
      | minus _ => rfl

theorem Denotes.unique {text : String} {number other : Int} (denotes : Denotes text number)
    (otherDenotes : Denotes text other) : number = other := by
  obtain ⟨written, spells, textIs⟩ := denotes
  obtain ⟨otherWritten, otherSpells, otherTextIs⟩ := otherDenotes
  have same : written = otherWritten := List.append_cancel_right (textIs.symm.trans otherTextIs)
  exact spells.unique (same ▸ otherSpells)

/-- A spelled number consists of digits and at most a sign, and of at least one digit. -/
theorem Spells.characters {text : List Char} {number : Int} (spells : Spells text number) :
    (∀ c ∈ text, c = '+' ∨ c = '-' ∨ '0' ≤ c ∧ c ≤ '9') ∧ ∃ c ∈ text, '0' ≤ c ∧ c ≤ '9' := by
  have ofNumeral : ∀ {digits}, IsNumeral digits →
      (∀ c ∈ digits, c = '+' ∨ c = '-' ∨ '0' ≤ c ∧ c ≤ '9') ∧ ∃ c ∈ digits, '0' ≤ c ∧ c ≤ '9' := by
    intro digits numeral
    obtain ⟨first, rest, rfl⟩ := List.exists_cons_of_ne_nil numeral.nonempty
    exact ⟨fun c member => .inr (.inr (numeral.digits c member)),
      first, List.mem_cons_self, numeral.digits first List.mem_cons_self⟩
  cases spells with
  | unsigned numeral => exact ofNumeral numeral
  | plus numeral =>
      obtain ⟨plain, c, member, isDigit⟩ := ofNumeral numeral
      exact ⟨List.forall_mem_cons.mpr ⟨.inl rfl, plain⟩, c, List.mem_cons_of_mem _ member, isDigit⟩
  | minus numeral =>
      obtain ⟨plain, c, member, isDigit⟩ := ofNumeral numeral
      exact ⟨List.forall_mem_cons.mpr ⟨.inr (.inl rfl), plain⟩, c, List.mem_cons_of_mem _ member,
        isDigit⟩

theorem Unfit.not_denotes {text : String} (unfit : Unfit text) (percent : Int32) :
    ¬ Denotes text percent.toInt := by
  intro denotes
  obtain ⟨written, spells, textIs⟩ := denotes
  obtain ⟨plain, digit, member, isDigit⟩ := spells.characters
  cases unfit with
  | percentSigns other =>
      have noneBefore : '%' ∉ written := fun listed => absurd (plain '%' listed) (by decide)
      rw [textIs, List.count_append, List.count_eq_zero_of_not_mem noneBefore] at other
      exact other rfl
  | foreign member strange =>
      rw [textIs, List.mem_append, List.mem_singleton] at member
      rcases member with before | rfl
      · rcases plain _ before with plus | minus | isDigit
        · exact strange (.inl plus)
        · exact strange (.inr (.inl minus))
        · exact strange (.inr (.inr (.inr isDigit)))
      · exact strange (.inr (.inr (.inl rfl)))
  | noDigit digitless =>
      rw [textIs] at digitless
      exact digitless digit (List.mem_append_left _ member) isDigit
  | outOfRange denotes outside =>
      have same := denotes.unique ⟨written, spells, textIs⟩
      have fits := Decode.fitsInt32_toInt percent
      rw [same] at outside
      exact outside ⟨fits.1, fits.2⟩

end Percentage

namespace Bound

open Percentage

theorem resolve_text_of_denotes {written : String} {percent : Int32}
    (denotes : Denotes written percent.toInt) (rounding : Rounding) (total : Int32) :
    (text written).resolve rounding total =
      .ok (clampInt32 (rounding.apply (percentOf percent total))) := by
  simp only [resolve, parse?_eq_some_iff.mpr denotes]

theorem resolve_text_of_unread {written : String} (unread : parse? written = none)
    (rounding : Rounding) (total : Int32) :
    (text written).resolve rounding total = .error (.notPercentage written) := by
  simp only [resolve, unread]

theorem resolve_text_of_not_denotes {written : String}
    (unfit : ∀ percent : Int32, ¬ Denotes written percent.toInt) (rounding : Rounding)
    (total : Int32) : (text written).resolve rounding total = .error (.notPercentage written) := by
  apply resolve_text_of_unread
  apply Option.eq_none_iff_forall_ne_some.mpr
  intro percent read
  exact unfit percent (parse?_eq_some_iff.mp read)

theorem denotes_fitting_iff {written : String} :
    (∃ number, Denotes written number ∧ -2 ^ 31 ≤ number ∧ number ≤ 2 ^ 31 - 1) ↔
      ∃ percent : Int32, Denotes written percent.toInt := by
  constructor
  · rintro ⟨number, denotes, low, high⟩
    refine ⟨Int32.ofInt number, ?_⟩
    rwa [Int32.toInt_ofInt_of_le low (by omega)]
  · rintro ⟨percent, denotes⟩
    have fits := Decode.fitsInt32_toInt percent
    exact ⟨_, denotes, fits.1, fits.2⟩

/-- Whatever the rounding and the total, the texts that resolve are the numbers of 32 bits with an
optional sign in front and one percent sign behind. The number is the one that is scaled, and any
other text comes back in the fault. So every count becomes a percentage by a percent sign, and none
does by itself; neither does a text without a digit, with a blank or a point anywhere, with a second
percent sign, or with a number that is too large. -/
theorem text_resolves_exactly :
    (∀ written rounding total, (∃ count, (text written).resolve rounding total = .ok count) ↔
      ∃ number, Denotes written number ∧ -2 ^ 31 ≤ number ∧ number ≤ 2 ^ 31 - 1) ∧
    (∀ written (percent : Int32), Denotes written percent.toInt → ∀ rounding total,
      (text written).resolve rounding total =
        .ok (clampInt32 (rounding.apply (percentOf percent total)))) ∧
    (∀ written rounding total, (¬ ∃ count, (text written).resolve rounding total = .ok count) →
      (text written).resolve rounding total = .error (.notPercentage written)) ∧
    (∀ (percent : Int32) rounding total,
      (text ((count percent).display ++ "%")).resolve rounding total =
        .ok (clampInt32 (rounding.apply (percentOf percent total)))) ∧
    ∀ written, Unfit written → ∀ rounding total,
      (text written).resolve rounding total = .error (.notPercentage written) := by
  refine ⟨?_, fun _ _ => resolve_text_of_denotes, ?_,
    fun percent => resolve_text_of_denotes (denotes_toString percent.toInt),
    fun _ unfit => resolve_text_of_not_denotes unfit.not_denotes⟩
  · intro written rounding total
    rw [denotes_fitting_iff]
    constructor
    · intro resolves
      by_contra undenoted
      rw [resolve_text_of_not_denotes (not_exists.mp undenoted)] at resolves
      obtain ⟨_, resolved⟩ := resolves
      cases resolved
    · rintro ⟨percent, denotes⟩
      exact ⟨_, resolve_text_of_denotes denotes rounding total⟩
  · intro written rounding total fails
    apply resolve_text_of_not_denotes
    intro percent denotes
    exact fails ⟨_, resolve_text_of_denotes denotes rounding total⟩

/-- The least number of 32 bits has no counterpart above zero. -/
theorem text_resolves_exactly_extremes :
    Denotes "-2147483648%" (-2147483648 : Int32).toInt ∧
      (text "-2147483648%").resolve .up 100 = .ok (-2147483648) ∧
      Unfit "2147483648%" ∧
      (text "2147483648%").resolve .up 100 = .error (.notPercentage "2147483648%") ∧
      (¬ ∃ count, (text "5 %").resolve .up 100 = .ok count) ∧
      (text "5 %").resolve .up 100 = .error (.notPercentage "5 %") := by
  obtain ⟨resolves, scales, fails, _, refuses⟩ := text_resolves_exactly
  have least : Denotes "-2147483648%" (-2147483648 : Int32).toInt :=
    ⟨"-2147483648".toList, .minus (by decide), by decide⟩
  have beyond : Unfit "2147483648%" :=
    .outOfRange ⟨"2147483648".toList, .unsigned (by decide), by decide⟩ (by decide)
  have blank : Unfit "5 %" := .foreign (c := ' ') (by decide) (by decide)
  have unresolved : ¬ ∃ count, (text "5 %").resolve .up 100 = .ok count := by
    rw [refuses "5 %" blank]
    rintro ⟨_, resolved⟩
    cases resolved
  refine ⟨least, ?_, beyond, refuses _ beyond .up 100, unresolved, fails _ _ _ unresolved⟩
  rw [scales _ _ least]
  decide +kernel

end Bound

end AvailabilityGate
