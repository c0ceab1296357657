/-!
Owns socket addresses: an IPv4 address or a bracketed IPv6 address, a colon and a number; how they
are read, and the one form in which they are written.

Readers take the characters that they understand and give back the rest.
-/

namespace AvailabilityGate.Net

/-- An address, and the number behind the colon. -/
inductive SocketAddress where
  | v4 (octets : List Nat) (number : Nat)
  /-- Eight groups of 16 bits, and a zone that is zero when there is none. -/
  | v6 (groups : List Nat) (zone : Nat) (number : Nat)
deriving DecidableEq, Repr

namespace SocketAddress

abbrev Reader (α : Type) := List Char → Option (α × List Char)

def char (expected : Char) : Reader Unit
  | [] => none
  | c :: rest => if c = expected then some ((), rest) else none

def digitValue? (radix : Nat) (c : Char) : Option Nat :=
  let value :=
    if c.isDigit then some (c.toNat - '0'.toNat)
    else if 'a' ≤ c ∧ c ≤ 'f' then some (c.toNat - 'a'.toNat + 10)
    else if 'A' ≤ c ∧ c ≤ 'F' then some (c.toNat - 'A'.toNat + 10)
    else none
  value.filter (· < radix)

/-- One or more digits, their value at most `limit`. -/
def number (radix limit : Nat) : Reader Nat := fun text =>
  let digits := text.takeWhile fun c => (digitValue? radix c).isSome
  let value := (digits.filterMap (digitValue? radix)).foldl (fun value d => value * radix + d) 0
  if digits ≠ [] ∧ value ≤ limit then some (value, text.drop digits.length) else none

/-- The digits in front of a text. -/
def digitCount (radix : Nat) (text : List Char) : Nat :=
  (text.takeWhile fun c => (digitValue? radix c).isSome).length

/-- A number up to 255 that does not start with a zero unless it is zero. -/
def octet : Reader Nat := fun text =>
  if text.head? = some '0' ∧ digitCount 10 text ≠ 1 then none
  else number 10 255 text

/-- At most four hexadecimal digits. -/
def group : Reader Nat := fun text =>
  if 4 < digitCount 16 text then none else number 16 65535 text

/-- A part, behind a separator unless it is the first one. -/
def separated {α : Type} (separator : Char) (first : Bool) (read : Reader α) : Reader α :=
  fun text =>
    if first then read text
    else (char separator text).bind fun (_, rest) => read rest

def ipv4 : Reader (List Nat) := fun text => do
  let (a, text) ← octet text
  let (b, text) ← separated '.' false octet text
  let (c, text) ← separated '.' false octet text
  let (d, text) ← separated '.' false octet text
  return ([a, b, c, d], text)

/-- The two groups that an IPv4 address stands for. -/
def groupsOf : List Nat → List Nat
  | [a, b, c, d] => [a * 256 + b, c * 256 + d]
  | _ => []

/-- Groups between colons, as many as there are up to a limit; an IPv4 address may stand for the
last two. Also tells whether one did. -/
def groups : Nat → Bool → List Char → List Nat × Bool × List Char
  | 0, _, text => ([], false, text)
  | left + 1, first, text =>
      match if 0 < left then separated ':' first ipv4 text else none with
      | some (octets, rest) => (groupsOf octets, true, rest)
      | none =>
          match separated ':' first group text with
          | none => ([], false, text)
          | some (value, rest) =>
              let (values, embedded, rest) := groups left false rest
              (value :: values, embedded, rest)

/-- Eight groups, or fewer around a double colon that stands for all the others. -/
def ipv6 : Reader (List Nat) := fun text => do
  let (head, embedded, text) := groups 8 true text
  if head.length = 8 then return (head, text)
  else if embedded then none
  else
    let (_, text) ← char ':' text
    let (_, text) ← char ':' text
    let (tail, _, text) := groups (7 - head.length) true text
    return (head ++ List.replicate (8 - head.length - tail.length) 0 ++ tail, text)

/-- A percent sign and the number of a zone; nothing is read if there is none. -/
def zone : List Char → Nat × List Char := fun text =>
  ((char '%' text).bind fun (_, rest) => number 10 4294967295 rest).getD (0, text)

def final : Reader Nat := fun text =>
  (char ':' text).bind fun (_, rest) => number 10 65535 rest

def readV4 (text : List Char) : Option SocketAddress := do
  let (octets, text) ← ipv4 text
  let (number, rest) ← final text
  if rest.isEmpty then some (.v4 octets number) else none

def readV6 (text : List Char) : Option SocketAddress := do
  let (_, text) ← char '[' text
  let (groups, text) ← ipv6 text
  let (zone, text) := zone text
  let (_, text) ← char ']' text
  let (number, rest) ← final text
  if rest.isEmpty then some (.v6 groups zone number) else none

def parse? (text : String) : Option SocketAddress :=
  (readV4 text.toList).orElse fun _ => readV6 text.toList

def hexText (value : Nat) : String :=
  String.ofList (Nat.toDigits 16 value)

def groupText (groups : List Nat) : String :=
  ":".intercalate (groups.map hexText)

def octetText (octets : List Nat) : String :=
  ".".intercalate (octets.map toString)

/-- The number of zeros in front. -/
def zeroRun (groups : List Nat) : Nat :=
  (groups.takeWhile (· == 0)).length

/-- Start and length of the longest run of zeros, the first one of several. -/
def longestRun (groups : List Nat) : Nat × Nat :=
  (List.range groups.length).foldl
    (fun best start =>
      let run := zeroRun (groups.drop start)
      if best.2 < run then (start, run) else best)
    (0, 0)

/-- The longest run of two or more zero groups is left out; an embedded IPv4 address is written as
one. -/
def ipv6Text (groups : List Nat) : String :=
  match groups with
  | [0, 0, 0, 0, 0, 65535, high, low] =>
      "::ffff:" ++ octetText [high / 256, high % 256, low / 256, low % 256]
  | _ =>
      let (start, run) := longestRun groups
      if 1 < run then
        groupText (groups.take start) ++ "::" ++ groupText (groups.drop (start + run))
      else groupText groups

def text : SocketAddress → String
  | .v4 octets number => octetText octets ++ ":" ++ toString number
  | .v6 groups zone number =>
      "[" ++ ipv6Text groups ++ (if zone = 0 then "" else "%" ++ toString zone) ++ "]:" ++
        toString number

end SocketAddress

end AvailabilityGate.Net
