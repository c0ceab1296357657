/-!
Owns days of the calendar and moments by the clock of UTC, and the way from the clock of another
zone to that of UTC.

The calendar is the Gregorian one, before its introduction as well, with a year 0. It holds the
years from -262143 to 262142. A leap second may end any minute.
-/

namespace AvailabilityGate

/-- Whether the year has a 29th of February. -/
def isLeapYear (year : Int) : Bool :=
  year % 4 = 0 ∧ (year % 100 ≠ 0 ∨ year % 400 = 0)

/-- The days of a month. -/
def monthLength (year : Int) (month : Nat) : Nat :=
  if month = 2 then if isLeapYear year then 29 else 28
  else if month ∈ [4, 6, 9, 11] then 30
  else 31

/-- The calendar has such a day. -/
def IsDate (year : Int) (month day : Nat) : Prop :=
  (-262143 ≤ year ∧ year ≤ 262142) ∧ (1 ≤ month ∧ month ≤ 12) ∧
    1 ≤ day ∧ day ≤ monthLength year month

instance (year : Int) (month day : Nat) : Decidable (IsDate year month day) :=
  inferInstanceAs (Decidable (_ ∧ _))

/-- A day of the calendar. -/
structure Date where
  year : Int
  month : Nat
  day : Nat
  isDate : IsDate year month day
deriving DecidableEq

namespace Date

def of? (year : Int) (month day : Nat) : Option Date :=
  if isDate : IsDate year month day then some ⟨year, month, day, isDate⟩ else none

/-- The day after, unless the calendar ends. -/
def next? (date : Date) : Option Date :=
  if date.day < monthLength date.year date.month then of? date.year date.month (date.day + 1)
  else if date.month < 12 then of? date.year (date.month + 1) 1
  else of? (date.year + 1) 1 1

/-- The day before, unless the calendar starts. -/
def previous? (date : Date) : Option Date :=
  if 1 < date.day then of? date.year date.month (date.day - 1)
  else if 1 < date.month then
    of? date.year (date.month - 1) (monthLength date.year (date.month - 1))
  else of? (date.year - 1) 12 31

end Date

/-- A clock can show such a time; in a leap second the second is 60. -/
def IsClock (hour minute second nanosecond : Nat) : Prop :=
  hour < 24 ∧ minute < 60 ∧ second ≤ 60 ∧ nanosecond < 1000000000

instance (hour minute second nanosecond : Nat) :
    Decidable (IsClock hour minute second nanosecond) :=
  inferInstanceAs (Decidable (_ ∧ _))

/-- What a clock shows. -/
structure Clock where
  hour : Nat
  minute : Nat
  second : Nat
  nanosecond : Nat
  isClock : IsClock hour minute second nanosecond
deriving DecidableEq

/-- A moment, by the calendar and the clock of UTC. -/
structure Time where
  date : Date
  clock : Clock
deriving DecidableEq

namespace Clock

def of? (hour minute second nanosecond : Nat) : Option Clock :=
  if isClock : IsClock hour minute second nanosecond then
    some ⟨hour, minute, second, nanosecond, isClock⟩
  else none

/-- The full minutes since midnight. -/
def minutes (clock : Clock) : Nat :=
  clock.hour * 60 + clock.minute

/-- The clock with other full minutes since midnight, a whole number of days apart. -/
def withMinutes (clock : Clock) (minutes : Int) : Clock where
  hour := (minutes % 1440).toNat / 60
  minute := (minutes % 1440).toNat % 60
  second := clock.second
  nanosecond := clock.nanosecond
  isClock := by
    obtain ⟨_, _, second_le, nanosecond_lt⟩ := clock.isClock
    refine ⟨?_, ?_, second_le, nanosecond_lt⟩ <;> omega

end Clock

namespace Time

/-- The moment at which the clock of a zone, so many minutes ahead of UTC, shows this. -/
def ofZone? (date : Date) (clock : Clock) (ahead : Int) : Option Time :=
  let minutes := clock.minutes - ahead
  let moved := clock.withMinutes minutes
  if minutes < 0 then date.previous?.map fun date => ⟨date, moved⟩
  else if minutes < 1440 then some ⟨date, moved⟩
  else date.next?.map fun date => ⟨date, moved⟩

theorem ofZone?_zero (date : Date) (clock : Clock) : ofZone? date clock 0 = some ⟨date, clock⟩ := by
  obtain ⟨hour_lt, minute_lt, _⟩ := clock.isClock
  have sameMinutes : ((clock.minutes : Int) - 0) % 1440 = clock.minutes := by
    rw [Clock.minutes]
    omega
  have moved : clock.withMinutes ((clock.minutes : Int) - 0) = clock := by
    obtain ⟨hour, minute, second, nanosecond, _⟩ := clock
    simp only [Clock.withMinutes, sameMinutes, Clock.mk.injEq, and_true, Clock.minutes] at *
    omega
  have notBefore : ¬ (clock.minutes : Int) - 0 < 0 := by omega
  have sameDay : (clock.minutes : Int) - 0 < 1440 := by
    rw [Clock.minutes]
    omega
  rw [ofZone?, if_neg notBefore, if_pos sameDay, moved]

end Time

end AvailabilityGate
