import Mathlib.Algebra.Order.Ring.Nat
import Mathlib.Data.List.TakeWhile
import AvailabilityGate.Time.Text

/-!
Owns the way of a moment through its text. Every part of the text is a number with a known count of
digits, or one that ends where no digit follows, so each part is read where it was written and the
rest is left for the next one.

Main statement: a moment that is written and read is the same moment.
-/

namespace AvailabilityGate.Time

/-! ### Numbers -/

theorem length_padded (width value : Nat) : (padded width value).length = width := by
  induction width generalizing value with
  | zero => rfl
  | succ width inductionHypothesis => simp [padded, inductionHypothesis]

theorem isDigit_of_mem_padded {width value : Nat} {c : Char} (among : c ∈ padded width value) :
    c.isDigit = true := by
  induction width generalizing value with
  | zero => cases among
  | succ width inductionHypothesis =>
      rcases List.mem_append.mp among with before | last
      · exact inductionHypothesis before
      · rw [List.mem_singleton.mp last, Nat.isDigit_digitChar]
        exact decide_eq_true (Nat.mod_lt _ (by decide))

theorem valueOf_padded {width value : Nat} (small : value < 10 ^ width) :
    valueOf (padded width value) = value := by
  induction width generalizing value with
  | zero => simp_all [padded, valueOf]
  | succ width inductionHypothesis =>
      have front := @inductionHypothesis (value / 10) (by rw [Nat.pow_succ] at small; omega)
      rw [valueOf] at front
      rw [padded, valueOf, Nat.ofDigitChars_append, front, Nat.ofDigitChars_cons,
        Nat.toNat_digitChar_of_lt_ten (Nat.mod_lt _ (by decide)), Nat.ofDigitChars_nil]
      change 10 * (value / 10) + (48 + value % 10 - 48) = value
      omega

/-- Behind so many digits a number with such a limit ends. -/
def Ends (limit count : Nat) (rest : List Char) : Prop :=
  count = limit ∨ count < limit ∧ ∀ c ∈ rest.head?, c.isDigit = false

theorem number_of_digits {limit : Nat} {digits rest : List Char} (present : digits ≠ [])
    (areDigits : ∀ c ∈ digits, c.isDigit = true) (ends : Ends limit digits.length rest) :
    number limit (digits ++ rest) = .ok (valueOf digits, rest) := by
  have read : ((digits ++ rest).take limit).takeWhile Char.isDigit = digits := by
    obtain ⟨room, rfl⟩ : ∃ room, limit = digits.length + room :=
      ⟨limit - digits.length, by rcases ends with rfl | ⟨_, _⟩ <;> omega⟩
    have stops : (rest.take room).takeWhile Char.isDigit = [] := by
      rcases ends with exact | ⟨_, noDigit⟩
      · simp [show room = 0 by omega]
      · cases rest with
        | nil => simp
        | cons c _ =>
            cases room with
            | zero => simp
            | succ room => simp [noDigit c rfl]
    rw [List.take_length_add_append, List.takeWhile_append_of_pos areDigits, stops,
      List.append_nil]
  obtain ⟨c, others, rfl⟩ := List.exists_cons_of_ne_nil present
  rw [List.cons_append] at read ⊢
  rw [number, read, if_neg present]
  simp

theorem number_padded {limit width value : Nat} {rest : List Char} (positive : 0 < width)
    (small : value < 10 ^ width) (ends : Ends limit width rest) :
    number limit (padded width value ++ rest) = .ok (value, rest) := by
  have present : padded width value ≠ [] :=
    List.ne_nil_of_length_pos (by rwa [length_padded])
  rw [number_of_digits present (fun c => isDigit_of_mem_padded)
    (by rwa [length_padded]), valueOf_padded small]

/-! ### Parts -/

theorem isBlank_of_isDigit {c : Char} (digit : c.isDigit = true) : Text.isBlank c = false := by
  have bounds : 48 ≤ c.toNat ∧ c.toNat ≤ 57 := Char.isDigit_iff_toNat.mp digit
  simp only [Text.isBlank, Bool.or_eq_false_iff, Bool.and_eq_false_iff, decide_eq_false_iff_not,
    beq_eq_false_iff_ne]
  omega

theorem skipBlanks_padded {width : Nat} (positive : 0 < width) (value : Nat) (rest : List Char) :
    skipBlanks (padded width value ++ rest) = padded width value ++ rest := by
  have present : padded width value ≠ [] :=
    List.ne_nil_of_length_pos (by rwa [length_padded])
  obtain ⟨c, others, isPadded⟩ := List.exists_cons_of_ne_nil present
  have digit : c.isDigit = true := isDigit_of_mem_padded (isPadded ▸ List.mem_cons_self)
  simp [isPadded, skipBlanks, isBlank_of_isDigit digit]

theorem part_padded {least greatest value : Nat} {rest : List Char} (enough : least ≤ value)
    (few : value ≤ greatest) (small : value < 100) :
    part least greatest (padded 2 value ++ rest) = .ok (value, rest) := by
  rw [part, skipBlanks_padded (by decide), number_padded (by decide) small (.inl rfl)]
  simp [bind, Except.bind, pure, Except.pure, enough, few]

theorem year_of_isDigit {c : Char} (digit : c.isDigit = true) (rest : List Char) :
    year (c :: rest) = (do
      let (value, rest) ← number 4 (c :: rest)
      return ((value : Int), rest)) := by
  have kept : skipBlanks (c :: rest) = c :: rest := by
    simp [skipBlanks, isBlank_of_isDigit digit]
  rw [year, kept]
  split
  · next starts =>
      obtain ⟨rfl, _⟩ := List.cons.inj starts
      simp at digit
  · next starts =>
      obtain ⟨rfl, _⟩ := List.cons.inj starts
      simp at digit
  · rfl

theorem year_written {value : Int} (low : -262143 ≤ value) (high : value ≤ 262142)
    (rest : List Char) : year (writtenYear value ++ '-' :: rest) = .ok (value, '-' :: rest) := by
  by_cases plain : 0 ≤ value ∧ value ≤ 9999
  · have read : number 4 (padded 4 value.toNat ++ '-' :: rest) = .ok (value.toNat, '-' :: rest) :=
      number_padded (by decide) (by omega) (.inl rfl)
    have present : padded 4 value.toNat ≠ [] :=
      List.ne_nil_of_length_pos (by rw [length_padded]; decide)
    obtain ⟨c, others, isPadded⟩ := List.exists_cons_of_ne_nil present
    have digit : c.isDigit = true := isDigit_of_mem_padded (isPadded ▸ List.mem_cons_self)
    rw [isPadded, List.cons_append] at read
    rw [writtenYear, if_pos plain, isPadded, List.cons_append, year_of_isDigit digit, read]
    simp only [bind, Except.bind, Int.toNat_of_nonneg plain.1]
    rfl
  · obtain ⟨width, positive, small, written⟩ : ∃ width, 0 < width ∧ value.natAbs < 10 ^ width ∧
        writtenYear value = (if value < 0 then '-' else '+') :: padded width value.natAbs := by
      rw [writtenYear, if_neg plain]
      refine ⟨_, ?_, ?_, rfl⟩ <;> split <;> (try split) <;> omega
    have read : number (padded width value.natAbs ++ '-' :: rest).length
        (padded width value.natAbs ++ '-' :: rest) = .ok (value.natAbs, '-' :: rest) := by
      refine number_padded positive small (.inr ⟨?_, by simp⟩)
      simp [length_padded]
    rw [written, List.cons_append]
    split
    · next negative =>
        have kept : skipBlanks ('-' :: (padded width value.natAbs ++ '-' :: rest)) =
            '-' :: (padded width value.natAbs ++ '-' :: rest) := rfl
        rw [year, kept]
        simp only [read, bind, Except.bind]
        rw [if_pos (by omega), show -(value.natAbs : Int) = value by omega]
        rfl
    · next notNegative =>
        have kept : skipBlanks ('+' :: (padded width value.natAbs ++ '-' :: rest)) =
            '+' :: (padded width value.natAbs ++ '-' :: rest) := rfl
        rw [year, kept]
        simp only [read, bind, Except.bind]
        rw [if_pos (by omega), show (value.natAbs : Int) = value by omega]
        rfl

/-- A point, and then so many digits that are scaled to a billionth. -/
theorem fraction_padded {width value : Nat} (positive : 0 < width) (atMost : width ≤ 9)
    (small : value < 10 ^ width) :
    fraction ('.' :: padded width value ++ ['Z']) = .ok (value * 10 ^ (9 - width), ['Z']) := by
  have ends : Ends 9 width ['Z'] := by
    rcases Nat.eq_or_lt_of_le atMost with exact | less
    · exact .inl exact
    · exact .inr ⟨less, by simp⟩
  rw [List.cons_append, fraction, number_padded positive small ends]
  simp [bind, Except.bind, pure, Except.pure, length_padded]

theorem fraction_written {nanosecond : Nat} (small : nanosecond < 1000000000) :
    fraction (writtenFraction nanosecond ++ ['Z']) = .ok (nanosecond, ['Z']) := by
  unfold writtenFraction
  split
  · next none => rw [none]; rfl
  · split
    · next millis =>
        rw [fraction_padded (by decide) (by decide) (by omega)]
        simp only [Except.ok.injEq, Prod.mk.injEq, and_true]
        omega
    · split
      · next micros =>
          rw [fraction_padded (by decide) (by decide) (by omega)]
          simp only [Except.ok.injEq, Prod.mk.injEq, and_true]
          omega
      · rw [fraction_padded (by decide) (by decide) (by omega)]
        simp

/-! ### Moments -/

theorem mark_self {c : Char} (mark : Text.isBlank c = false) (rest : List Char) :
    Time.mark c (c :: rest) = .ok rest := by
  simp [Time.mark, skipBlanks, mark]

theorem monthLength_le (year : Int) (month : Nat) : monthLength year month ≤ 31 := by
  unfold monthLength
  split
  · split <;> decide
  · split <;> decide

theorem readParts_text (time : Time) : readParts time.text.toList = .ok {
    year := time.date.year, month := time.date.month, day := time.date.day
    hour := time.clock.hour, minute := time.clock.minute, second := time.clock.second
    nanosecond := time.clock.nanosecond, ahead := 0 } := by
  obtain ⟨⟨year_ge, year_le⟩, ⟨month_pos, month_le⟩, day_pos, day_le⟩ := time.date.isDate
  obtain ⟨hour_lt, minute_lt, second_le, nanosecond_lt⟩ := time.clock.isClock
  have day_le_31 := Nat.le_trans day_le (monthLength_le _ _)
  have dash : Text.isBlank '-' = false := rfl
  have colon : Text.isBlank ':' = false := rfl
  have separated (rest : List Char) : separator ('T' :: rest) = .ok rest := rfl
  have utc : zoneOrName ['Z'] = .ok (0, []) := rfl
  have nothing : skipBlanks [] = [] := rfl
  rw [text, String.toList_ofList, writtenDate, writtenClock, readParts]
  simp only [List.append_assoc, List.cons_append, bind, Except.bind,
    year_written year_ge year_le, mark_self dash, mark_self colon,
    part_padded month_pos month_le (by omega), part_padded day_pos day_le_31 (by omega), separated,
    part_padded (Nat.zero_le _) (Nat.le_of_lt_succ hour_lt) (by omega),
    part_padded (Nat.zero_le _) (Nat.le_of_lt_succ minute_lt) (by omega),
    part_padded (Nat.zero_le _) second_le (by omega), fraction_written nanosecond_lt, utc,
    nothing]
  rfl

theorem read_text (time : Time) : read time.text = .ok time := by
  rw [read, readParts_text]
  have isDate : Date.of? time.date.year time.date.month time.date.day = some time.date :=
    dif_pos time.date.isDate
  have isClock : Clock.of? time.clock.hour time.clock.minute time.clock.second
      time.clock.nanosecond = some time.clock := dif_pos time.clock.isClock
  simp [bind, Except.bind, Reading.time, isDate, isClock, ofZone?_zero]

/-- A moment in another zone, just before midnight there. -/
example : (read "2024-02-29 23:30:60.25 -01:00").map text = .ok "2024-03-01T00:30:60.250Z" := by
  rfl

end AvailabilityGate.Time
