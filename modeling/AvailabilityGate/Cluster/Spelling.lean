import AvailabilityGate.Decode.Failure
import AvailabilityGate.Document.Token

/-!
Owns what the text of a cluster configuration must keep beside being JSON: no escape in a string
stands for half of a surrogate pair, no object has a name twice, no integer needs between 64 and
128 bits, and no value lies too deep. Strings are looked at first, through the whole text, and then
values from the front.

Does not own what a configuration says; see `AvailabilityGate.Cluster.Kubeconfig`.
-/

namespace AvailabilityGate.Cluster

/-- A place in a text, counted from one. -/
structure Mark where
  line : Nat := 1
  column : Nat := 1
deriving DecidableEq, Repr

namespace Mark

/-- The place behind a text that starts here. -/
def past (mark : Mark) : List Char → Mark
  | [] => mark
  | '\r' :: '\n' :: rest => past ⟨mark.line + 1, 1⟩ rest
  | c :: rest =>
      if c = '\n' ∨ c = '\r' then past ⟨mark.line + 1, 1⟩ rest
      else past ⟨mark.line, mark.column + 1⟩ rest

/-- The place in a text where its ending `rest` starts. -/
def before (text rest : List Char) : Mark :=
  past {} (text.take (text.length - rest.length))

def details (mark : Mark) : String :=
  "Mark \x7b line: " ++ toString mark.line ++ ", column: " ++ toString mark.column ++ " \x7d"

end Mark

/-- Why a text is not that of a configuration. -/
inductive SpellingFault where
  /-- An escape in the string that starts at `string` stands for half of a pair. -/
  | halfPair (string escape : Mark)
  /-- The object that starts at `object` has a name twice. -/
  | repeatedName (name : String) (path : List PathStep) (object : Mark)
  | wideInteger (value : Int) (path : List PathStep) (mark : Mark)
  | tooDeep (mark : Mark)

namespace SpellingFault

/-- A way into a document as it stands before a message. -/
def placeText : List PathStep → String
  | [] => ""
  | .item index :: rest => "." ++ DecodeFailure.pathText (.item index :: rest) ++ ": "
  | path => DecodeFailure.pathText path ++ ": "

private def placed (message : String) (mark : Mark) : String :=
  "Error(" ++ Text.quoted message ++ ", line: " ++ toString mark.line ++ ", column: " ++
    toString mark.column ++ ")"

/-- The fault by its parts. The start of the text is no place worth to be named. -/
def details : SpellingFault → String
  | .halfPair string escape =>
      let context := if string = {} then "" else ", context_mark: " ++ string.details
      "Error \x7b kind: SCANNER, problem: " ++
        Text.quoted "found invalid Unicode character escape code" ++
        ", problem_mark: " ++ escape.details ++
        ", context: " ++ Text.quoted "while parsing a quoted scalar" ++ context ++ " \x7d"
  | .repeatedName name path object =>
      placed (placeText path ++ "duplicate entry with key " ++ Text.quoted name) object
  | .wideInteger value path mark =>
      let kind := if value < 0 then "i128" else "u128"
      placed (placeText path ++ "invalid type: integer `" ++ toString value ++ "` as " ++ kind ++
        ", expected any YAML value") mark
  | .tooDeep mark => placed "recursion limit exceeded" mark

end SpellingFault

namespace Spelling

open Document (PlacedToken Token)

/-- The text behind the `\u` of the first escape that stands for half of a pair, in a string from
behind its opening quote on. -/
def halfPairIn : List Char → Option (List Char)
  | [] => none
  | '"' :: _ => none
  | '\\' :: 'u' :: a :: b :: rest =>
      if (a = 'd' ∨ a = 'D') ∧ ('8' ≤ b ∧ b ≤ '9' ∨ 'a' ≤ b.toLower ∧ b.toLower ≤ 'f') then
        some (a :: b :: rest)
      else halfPairIn (a :: b :: rest)
  | '\\' :: _ :: rest => halfPairIn rest
  | _ :: rest => halfPairIn rest

/-- The first fault in a string. -/
def stringFault? (text : List Char) (tokens : List PlacedToken) : Option SpellingFault :=
  tokens.findSome? fun placed =>
    match placed with
    | ⟨.quote _, '"' :: rest⟩ =>
        (halfPairIn rest).map fun behind =>
          .halfPair (Mark.before text ('"' :: rest)) (Mark.before text behind)
    | _ => none

/-- An open container. -/
inductive Frame where
  | array (index : Nat)
  /-- The text from the opening brace on, the names so far, and the name of the value that comes
  next, if it is a value that comes next. -/
  | object (opening : List Char) (names : List String) (current : Option String)

def Frame.step : Frame → PathStep
  | .array index => .item index
  | .object _ _ (some name) => .member name
  | .object _ _ none => .unnamed

def path (frames : List Frame) : List PathStep :=
  frames.reverse.map Frame.step

/-- Containers deeper than this are refused. -/
def depthLimit : Nat := 128

/-- An integer that does not fit 64 bits, but 128. -/
def wideInteger? (text : List Char) : Option Int :=
  let (negative, digits) := match text with
    | '-' :: rest => (true, rest)
    | text => (false, text)
  let size := Numeral.wholeValue (digits.takeWhile Char.isDigit)
  match digits.dropWhile Char.isDigit with
  | '.' :: _ | 'e' :: _ | 'E' :: _ => none
  | _ =>
      if negative then
        if 0x8000000000000000 < size ∧ size ≤ 0x80000000000000000000000000000000 then
          some (-(size : Int))
        else none
      else if 0xffffffffffffffff < size ∧ size ≤ 0xffffffffffffffffffffffffffffffff then
        some size
      else none

/-- The first fault in the values. -/
def valueFault? (text : List Char) : List Frame → List PlacedToken → Option SpellingFault
  | _, [] => none
  | frames, ⟨.openArray, here⟩ :: rest =>
      if frames.length < depthLimit then valueFault? text (.array 0 :: frames) rest
      else some (.tooDeep (Mark.before text here))
  | frames, ⟨.openObject, here⟩ :: rest =>
      if frames.length < depthLimit then valueFault? text (.object here [] none :: frames) rest
      else some (.tooDeep (Mark.before text here))
  | frames, ⟨.closeArray, _⟩ :: rest => valueFault? text frames.tail rest
  | frames, ⟨.closeObject, _⟩ :: rest => valueFault? text frames.tail rest
  | .array index :: frames, ⟨.comma, _⟩ :: rest =>
      valueFault? text (.array (index + 1) :: frames) rest
  | .object opening names _ :: frames, ⟨.comma, _⟩ :: rest =>
      valueFault? text (.object opening names none :: frames) rest
  | .object opening names none :: frames, ⟨.quote (.str name), _⟩ :: rest =>
      if name ∈ names then some (.repeatedName name (path frames) (Mark.before text opening))
      else valueFault? text (.object opening (name :: names) (some name) :: frames) rest
  | frames, ⟨.scalar _, here⟩ :: rest =>
      match wideInteger? here with
      | some value => some (.wideInteger value (path frames) (Mark.before text here))
      | none => valueFault? text frames rest
  | frames, _ :: rest => valueFault? text frames rest

/-- The first fault of a text. -/
def fault? (text : List Char) : Option SpellingFault :=
  let tokens := Document.placedTokens text
  (stringFault? text tokens).orElse fun _ => valueFault? text [] tokens

end Spelling

end AvailabilityGate.Cluster
