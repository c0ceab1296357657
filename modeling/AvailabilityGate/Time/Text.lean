import AvailabilityGate.Text.Blank
import AvailabilityGate.Time.Basic

/-!
Owns moments as text. They are written as RFC 3339 has it, by the clock of UTC, with as few digits
of the fraction as are needed, in steps of three. They are read in a wider form: blanks may stand
before every part, the year may have a sign and then any number of digits, and any zone may be
given.

Main statement: see `AvailabilityGate.Proofs.Time.RoundTrip`; what is written is read back.
-/

namespace AvailabilityGate

/-- Ways in which a text fails to be a moment. -/
inductive TimeFault where
  | outOfRange
  /-- The clock of UTC never showed it. -/
  | impossible
  | invalid
  | tooShort
  | tooLong
deriving DecidableEq, Repr

def TimeFault.message : TimeFault → String
  | .outOfRange => "input is out of range"
  | .impossible => "no possible date and time matching input"
  | .invalid => "input contains invalid characters"
  | .tooShort => "premature end of input"
  | .tooLong => "trailing input"

namespace Time

/-! ### Writing -/

/-- The last decimal digits of a number, so many of them. -/
def padded : Nat → Nat → List Char
  | 0, _ => []
  | width + 1, value => padded width (value / 10) ++ [Nat.digitChar (value % 10)]

/-- The year; one of more or fewer digits than four has a sign. -/
def writtenYear (year : Int) : List Char :=
  if 0 ≤ year ∧ year ≤ 9999 then padded 4 year.toNat
  else
    let magnitude := year.natAbs
    let width := if magnitude < 10000 then 4 else if magnitude < 100000 then 5 else 6
    (if year < 0 then '-' else '+') :: padded width magnitude

def writtenFraction (nanosecond : Nat) : List Char :=
  if nanosecond = 0 then []
  else if nanosecond % 1000000 = 0 then '.' :: padded 3 (nanosecond / 1000000)
  else if nanosecond % 1000 = 0 then '.' :: padded 6 (nanosecond / 1000)
  else '.' :: padded 9 nanosecond

def writtenDate (date : Date) : List Char :=
  writtenYear date.year ++ '-' :: padded 2 date.month ++ '-' :: padded 2 date.day

def writtenClock (clock : Clock) : List Char :=
  padded 2 clock.hour ++ ':' :: padded 2 clock.minute ++ ':' :: padded 2 clock.second ++
    writtenFraction clock.nanosecond

def text (time : Time) : String :=
  String.ofList (writtenDate time.date ++ 'T' :: writtenClock time.clock ++ ['Z'])

/-! ### Reading -/

/-- Reads from the front of a text and gives what is left. -/
abbrev Scan (α : Type) := List Char → Except TimeFault (α × List Char)

def skipBlanks (text : List Char) : List Char :=
  text.dropWhile Text.isBlank

def valueOf (digits : List Char) : Nat :=
  Nat.ofDigitChars 10 digits 0

/-- A number of at least one and at most `limit` digits. -/
def number (limit : Nat) : Scan Nat
  | [] => .error .tooShort
  | c :: rest =>
      let digits := ((c :: rest).take limit).takeWhile Char.isDigit
      if digits = [] then .error .invalid
      else .ok (valueOf digits, (c :: rest).drop digits.length)

/-- A number of one or two digits within the limits. -/
def part (least greatest : Nat) : Scan Nat := fun text => do
  let (value, rest) ← number 2 (skipBlanks text)
  if least ≤ value ∧ value ≤ greatest then return (value, rest) else .error .outOfRange

/-- A year has four digits at most, but any number of them behind a sign. -/
def year : Scan Int := fun text =>
  match skipBlanks text with
  | '-' :: digits => do
      let (value, rest) ← number digits.length digits
      if value ≤ 2147483648 then return (-value, rest) else .error .outOfRange
  | '+' :: digits => do
      let (value, rest) ← number digits.length digits
      if value ≤ 2147483647 then return ((value : Int), rest) else .error .outOfRange
  | digits => do
      let (value, rest) ← number 4 digits
      return ((value : Int), rest)

/-- The character between two parts. -/
def mark (c : Char) (text : List Char) : Except TimeFault (List Char) :=
  match skipBlanks text with
  | [] => .error .tooShort
  | d :: rest => if d = c then .ok rest else .error .invalid

/-- The character between the date and the clock, before which no blank may stand. -/
def separator : List Char → Except TimeFault (List Char)
  | [] => .error .tooShort
  | c :: rest => if c ∈ ['t', 'T', ' '] then .ok rest else .error .invalid

/-- Digits behind a point, of which the first nine count. -/
def fraction : Scan Nat
  | '.' :: digits => do
      let (value, rest) ← number 9 digits
      return (value * Nat.pow 10 (9 - (digits.length - rest.length)), rest.dropWhile Char.isDigit)
  | text => .ok (0, text)

/-- The two characters in front, unless fewer than two bytes are left. -/
def twoAhead : List Char → Except TimeFault (Char × Char)
  | [] => .error .tooShort
  | [c] => if c.utf8Size < 2 then .error .tooShort else .error .invalid
  | c :: d :: _ => .ok (c, d)

/-- The minutes of an hour in the offset of a zone. -/
def zoneMinutes : Scan Nat := fun text => do
  let (tens, ones) ← twoAhead text
  if ¬ (tens.isDigit ∧ ones.isDigit) then .error .invalid
  else if '5' < tens then .error .outOfRange
  else return (valueOf [tens, ones], text.drop 2)

/-- Hours and minutes, with any colons and blanks between them. -/
def zoneOffset : Scan Nat := fun text => do
  let (tens, ones) ← twoAhead text
  if ¬ (tens.isDigit ∧ ones.isDigit) then .error .invalid
  else
    let (minutes, rest) ←
      zoneMinutes ((text.drop 2).dropWhile fun c => c == ':' || Text.isBlank c)
    return (valueOf [tens, ones] * 60 + minutes, rest)

/-- The minutes by which a zone is ahead of UTC. -/
def zone : Scan Int
  | [] => .error .tooShort
  | c :: rest =>
      if c ∈ ['z', 'Z'] then .ok (0, rest)
      else if c = '+' then do
        let (ahead, rest) ← zoneOffset rest
        return ((ahead : Int), rest)
      else if c ∈ ['-', '\u2212'] then do
        let (behind, rest) ← zoneOffset rest
        return (-behind, rest)
      else .error .invalid

/-- A zone, or the name of UTC. -/
def zoneOrName (text : List Char) : Except TimeFault (Int × List Char) :=
  let text := skipBlanks text
  if (text.take 3).map Char.toLower = ['u', 't', 'c'] then .ok (0, text.drop 3) else zone text

/-- What a text says of a moment, each part within its own limits. -/
structure Reading where
  year : Int
  month : Nat
  day : Nat
  hour : Nat
  minute : Nat
  second : Nat
  nanosecond : Nat
  /-- The minutes by which the zone is ahead of UTC. -/
  ahead : Int

/-- The parts of a text in the order they stand. -/
def readParts (text : List Char) : Except TimeFault Reading := do
  let (year, text) ← year text
  let text ← mark '-' text
  let (month, text) ← part 1 12 text
  let text ← mark '-' text
  let (day, text) ← part 1 31 text
  let text ← separator text
  let (hour, text) ← part 0 23 text
  let text ← mark ':' text
  let (minute, text) ← part 0 59 text
  let text ← mark ':' text
  let (second, text) ← part 0 60 text
  let (nanosecond, text) ← fraction text
  let (ahead, text) ← zoneOrName text
  if skipBlanks text = [] then
    return { year, month, day, hour, minute, second, nanosecond, ahead }
  else .error .tooLong

/-- The moment that the parts say together. -/
def Reading.time (reading : Reading) : Except TimeFault Time :=
  match Date.of? reading.year reading.month reading.day,
    Clock.of? reading.hour reading.minute reading.second reading.nanosecond with
  | some date, some clock =>
      if -1440 < reading.ahead ∧ reading.ahead < 1440 then
        match ofZone? date clock reading.ahead with
        | some time => .ok time
        | none => .error .impossible
      else .error .outOfRange
  | _, _ => .error .outOfRange

/-- The moment that a text says. -/
def read (text : String) : Except TimeFault Time := do
  (← readParts text.toList).time

end Time

end AvailabilityGate
