import AvailabilityGate.Document.Basic
import AvailabilityGate.Text.Bytes

/-!
Owns strings in JSON text, from behind the opening quote to the closing one.

An escaped surrogate must be a pair. A reader that passes over a string does not look at that, so
such a string is refused rather than broken.
-/

namespace AvailabilityGate.Document

/-- Where a scan stands inside a string. -/
inductive QuotePhase where
  | plain
  /-- Behind a backslash. -/
  | escape
  /-- Some hexadecimal digits are still to come; `high` is a leading surrogate before them. -/
  | hex (left : Nat) (value : Nat) (high : Option Nat)
  /-- Behind a leading surrogate. -/
  | pair (high : Nat)
  /-- Behind a leading surrogate and a backslash. -/
  | pairEscape (high : Nat)

/-- A scan of a string: what was read, in reverse, and the first fault that only a use of the
string would meet. -/
structure QuoteScan where
  phase : QuotePhase := .plain
  reversed : List Char := []
  refusal : Option SyntaxFault := none

inductive QuoteStep where
  | more (scan : QuoteScan)
  | closed (scan : QuoteScan)
  | fault (scan : QuoteScan) (cause : SyntaxFault)

namespace QuoteScan

def put (scan : QuoteScan) (c : Char) : QuoteScan :=
  { scan with phase := .plain, reversed := c :: scan.reversed }

def refuse (scan : QuoteScan) (cause : SyntaxFault) : QuoteScan :=
  { scan with phase := .plain, refusal := scan.refusal.orElse fun _ => some cause }

def plainStep (scan : QuoteScan) (c : Char) : QuoteStep :=
  if c = '"' then .closed scan
  else if c = '\\' then .more { scan with phase := .escape }
  else if c.toNat < 0x20 then .fault scan .controlCharacter
  else .more (scan.put c)

def escapeStep (scan : QuoteScan) (c : Char) : QuoteStep :=
  match c with
  | '"' => .more (scan.put '"')
  | '\\' => .more (scan.put '\\')
  | '/' => .more (scan.put '/')
  | 'b' => .more (scan.put '\x08')
  | 'f' => .more (scan.put '\x0c')
  | 'n' => .more (scan.put '\n')
  | 'r' => .more (scan.put '\r')
  | 't' => .more (scan.put '\t')
  | 'u' => .more { scan with phase := .hex 4 0 none }
  | _ => .fault scan .invalidEscape

def hexValue? (c : Char) : Option Nat :=
  if c.isDigit then some (c.toNat - '0'.toNat)
  else if 'a' ≤ c ∧ c ≤ 'f' then some (c.toNat - 'a'.toNat + 10)
  else if 'A' ≤ c ∧ c ≤ 'F' then some (c.toNat - 'A'.toNat + 10)
  else none

/-- The end of a `\u` escape. -/
def unit (scan : QuoteScan) (value : Nat) (high : Option Nat) : QuoteScan :=
  let trailing := 0xdc00 ≤ value ∧ value ≤ 0xdfff
  match high with
  | some high =>
      if trailing then
        scan.put (Char.ofNat (0x10000 + (high - 0xd800) * 0x400 + (value - 0xdc00)))
      else scan.refuse .loneSurrogate
  | none =>
      if trailing then scan.refuse .loneSurrogate
      else if 0xd800 ≤ value ∧ value ≤ 0xdbff then { scan with phase := .pair value }
      else scan.put (Char.ofNat value)

/-- Whether a text has at least so many bytes. -/
def hasBytes (count : Nat) (text : List Char) : Bool :=
  count ≤ Text.byteLength text

/-- One character of a string; `rest` is the text behind it. -/
def step (scan : QuoteScan) (c : Char) (rest : List Char) : QuoteStep :=
  match scan.phase with
  | .plain => scan.plainStep c
  | .escape => scan.escapeStep c
  | .hex left value high =>
      match hexValue? c with
      | none =>
          .fault scan (if hasBytes left (c :: rest.take left) then .invalidEscape else .endOfString)
      | some digit =>
          let value := value * 16 + digit
          if left ≤ 1 then .more (scan.unit value high)
          else .more { scan with phase := .hex (left - 1) value high }
  | .pair high =>
      if c = '\\' then .more { scan with phase := .pairEscape high }
      else (scan.refuse .unfinishedSurrogate).plainStep c
  | .pairEscape high =>
      if c = 'u' then .more { scan with phase := .hex 4 0 (some high) }
      else (scan.refuse .unfinishedSurrogate).escapeStep c

/-- The document of a scan that ended with the given document in place of the string. -/
def finish (scan : QuoteScan) (inner : Document) : Document :=
  match scan.refusal with
  | none => inner
  | some cause => .refused cause inner

/-- The string and the text behind it; nothing is read behind a fault. -/
def run (scan : QuoteScan) : List Char → Document × List Char
  | [] => (scan.finish (.broken .endOfString), [])
  | c :: rest =>
      match scan.step c rest with
      | .more scan => scan.run rest
      | .closed scan => (scan.finish (.str (String.ofList scan.reversed.reverse)), rest)
      | .fault scan cause => (scan.finish (.broken cause), [])

theorem run_length_le (scan : QuoteScan) (text : List Char) :
    (scan.run text).2.length ≤ text.length := by
  induction text generalizing scan with
  | nil => simp [run]
  | cons c rest inductionHypothesis =>
      simp only [run]
      split
      · next next _ => exact Nat.le_succ_of_le (inductionHypothesis next)
      · simp
      · simp

end QuoteScan

end AvailabilityGate.Document
