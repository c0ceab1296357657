import AvailabilityGate.Document.Numeral
import AvailabilityGate.Document.Quote

/-!
Owns the tokens of JSON text. The tokens of a text stop at the first fault, which is the last
token: whatever stands behind it is never looked at.
-/

namespace AvailabilityGate.Document

inductive Token where
  | openArray
  | closeArray
  | openObject
  | closeObject
  | comma
  | colon
  /-- A string, where a name or a value may stand. -/
  | quote (value : Document)
  /-- Any other value without parts. -/
  | scalar (value : Document)

/-- Reads the rest of a word. -/
def scanWord (value : Document) : List Char → List Char → Document × List Char
  | [], text => (value, text)
  | _ :: _, [] => (.broken .endOfWord, [])
  | expected :: word, c :: rest =>
      if expected = c then scanWord value word rest else (.broken .expectedWord, [])

/-- The fault at a place where a digit is missing. -/
def missingDigit (text : List Char) : Document × List Char :=
  (.broken (if text.isEmpty then .endOfNumber else .invalidNumber), [])

/-- Reads an exponent from behind its mark, with the rest of the number known. -/
def scanExponent (negative : Bool) (whole fraction text : List Char) : Document × List Char :=
  let digitsFrom (sign : Int) (text : List Char) : Document × List Char :=
    match text.takeWhile Char.isDigit with
    | [] => missingDigit text
    | digits =>
        let exponent := sign * (Numeral.wholeValue digits : Int)
        (Numeral.document ⟨whole, fraction, some exponent⟩ negative, text.dropWhile Char.isDigit)
  match text with
  | '+' :: text => digitsFrom 1 text
  | '-' :: text => digitsFrom (-1) text
  | text => digitsFrom 1 text

/-- Reads what may stand behind the digits of a number. -/
def scanTail (negative : Bool) (whole fraction : List Char) : List Char → Document × List Char
  | 'e' :: text => scanExponent negative whole fraction text
  | 'E' :: text => scanExponent negative whole fraction text
  | text => (Numeral.document ⟨whole, fraction, none⟩ negative, text)

/-- Reads a number from its first digit on. -/
def scanNumber (negative : Bool) (first : Char) (rest : List Char) : Document × List Char :=
  let whole := first :: rest.takeWhile Char.isDigit
  if first = '0' ∧ 1 < whole.length then (.broken .invalidNumber, [])
  else
    match rest.dropWhile Char.isDigit with
    | '.' :: behindPoint =>
        match behindPoint.takeWhile Char.isDigit with
        | [] => missingDigit behindPoint
        | fraction => scanTail negative whole fraction (behindPoint.dropWhile Char.isDigit)
    | behind => scanTail negative whole [] behind

/-- Reads a value that starts with the given character and has no parts. -/
def scanScalar (first : Char) (rest : List Char) : Document × List Char :=
  match first with
  | 'n' => scanWord .null ['u', 'l', 'l'] rest
  | 't' => scanWord (.bool true) ['r', 'u', 'e'] rest
  | 'f' => scanWord (.bool false) ['a', 'l', 's', 'e'] rest
  | '-' =>
      match rest with
      | [] => missingDigit rest
      | digit :: behind => if digit.isDigit then scanNumber true digit behind else missingDigit rest
  | first => if first.isDigit then scanNumber false first rest else (.broken .expectedValue, [])

private theorem dropWhile_length_le (text : List Char) :
    (text.dropWhile Char.isDigit).length ≤ text.length :=
  (List.dropWhile_suffix Char.isDigit).length_le

private theorem scanWord_length_le (value : Document) (word text : List Char) :
    (scanWord value word text).2.length ≤ text.length := by
  induction word generalizing text with
  | nil => simp [scanWord]
  | cons expected word inductionHypothesis =>
      cases text with
      | nil => simp [scanWord]
      | cons c rest =>
          simp only [scanWord]
          split
          · exact Nat.le_succ_of_le (inductionHypothesis rest)
          · simp

private theorem scanExponent_length_le (negative : Bool) (whole fraction text : List Char) :
    (scanExponent negative whole fraction text).2.length ≤ text.length := by
  have digits : ∀ (sign : Int) (text : List Char),
      (match text.takeWhile Char.isDigit with
        | [] => missingDigit text
        | digits =>
            (Numeral.document ⟨whole, fraction, some (sign * (Numeral.wholeValue digits : Int))⟩
              negative, text.dropWhile Char.isDigit)).2.length ≤ text.length := by
    intro sign text
    split
    · simp [missingDigit]
    · exact dropWhile_length_le text
  unfold scanExponent
  split
  · exact Nat.le_succ_of_le (digits 1 _)
  · exact Nat.le_succ_of_le (digits (-1) _)
  · exact digits 1 _

private theorem scanTail_length_le (negative : Bool) (whole fraction text : List Char) :
    (scanTail negative whole fraction text).2.length ≤ text.length := by
  unfold scanTail
  split
  · exact Nat.le_succ_of_le (scanExponent_length_le ..)
  · exact Nat.le_succ_of_le (scanExponent_length_le ..)
  · exact Nat.le_refl _

private theorem scanNumber_length_le (negative : Bool) (first : Char) (rest : List Char) :
    (scanNumber negative first rest).2.length ≤ rest.length := by
  have whole := dropWhile_length_le rest
  unfold scanNumber
  dsimp only
  split
  · simp
  · split
    · next behindPoint dropped =>
        rw [dropped] at whole
        split
        · simp [missingDigit]
        · have tail := dropWhile_length_le behindPoint
          simp only [List.length_cons] at whole
          refine Nat.le_trans (scanTail_length_le ..) ?_
          omega
    · exact Nat.le_trans (scanTail_length_le ..) whole

/-- No value gives text back that it has not been given. -/
theorem scanScalar_length_le (first : Char) (rest : List Char) :
    (scanScalar first rest).2.length ≤ rest.length := by
  unfold scanScalar
  split
  · exact scanWord_length_le ..
  · exact scanWord_length_le ..
  · exact scanWord_length_le ..
  · split
    · simp [missingDigit]
    · split
      · exact Nat.le_succ_of_le (scanNumber_length_le ..)
      · simp [missingDigit]
  · split
    · exact scanNumber_length_le ..
    · simp

/-- A token, and the text from its first character on. -/
structure PlacedToken where
  token : Token
  text : List Char

/-- The tokens of a text with their places. -/
def placedTokens : List Char → List PlacedToken
  | [] => []
  | c :: rest =>
      if c = ' ' ∨ c = '\n' ∨ c = '\t' ∨ c = '\r' then placedTokens rest
      else if c = '[' then ⟨.openArray, c :: rest⟩ :: placedTokens rest
      else if c = ']' then ⟨.closeArray, c :: rest⟩ :: placedTokens rest
      else if c = '\x7b' then ⟨.openObject, c :: rest⟩ :: placedTokens rest
      else if c = '\x7d' then ⟨.closeObject, c :: rest⟩ :: placedTokens rest
      else if c = ',' then ⟨.comma, c :: rest⟩ :: placedTokens rest
      else if c = ':' then ⟨.colon, c :: rest⟩ :: placedTokens rest
      else if c = '"' then
        let scanned := QuoteScan.run {} rest
        ⟨.quote scanned.1, c :: rest⟩ :: placedTokens scanned.2
      else
        let scanned := scanScalar c rest
        ⟨.scalar scanned.1, c :: rest⟩ :: placedTokens scanned.2
termination_by text => text.length
decreasing_by
  all_goals simp only [List.length_cons]
  all_goals first
    | omega
    | exact Nat.lt_succ_of_le (QuoteScan.run_length_le {} rest)
    | exact Nat.lt_succ_of_le (scanScalar_length_le c rest)

/-- The tokens of a text. -/
def tokens (text : List Char) : List Token :=
  (placedTokens text).map PlacedToken.token

end AvailabilityGate.Document
