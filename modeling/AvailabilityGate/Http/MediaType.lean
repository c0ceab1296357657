/-!
Owns the reading of media types, as far as it takes to know whether a body is JSON: a type, a
slash, a subtype with an optional suffix behind its last plus sign, and parameters. Letters count
without case.
-/

namespace AvailabilityGate.Http.MediaType

def isTokenChar (c : Char) : Bool :=
  c.isAlphanum || "!#$%&'*+-.^_|~".toList.contains c || c == Char.ofNat 0x60

/-- Characters that may stand between quotes. -/
def isQuotable (c : Char) : Bool :=
  0x20 ≤ c.toNat && c.toNat ≠ 0x7f

/-- Where a reader of parameters stands. -/
inductive ParameterPhase where
  | between
  | name
  | valueStart
  | token
  | quoteStart
  | quote
  | quoteEnd
deriving DecidableEq, Repr

def ParameterPhase.step : ParameterPhase → Char → Option ParameterPhase
  | .between, ' ' => some .between
  | .between, c => if isTokenChar c then some .name else none
  | .name, '=' => some .valueStart
  | .name, c => if isTokenChar c then some .name else none
  | .valueStart, '"' => some .quoteStart
  | .valueStart, c => if isTokenChar c then some .token else none
  | .token, ';' => some .between
  | .token, c => if isTokenChar c then some .token else none
  | .quoteStart, c => if isQuotable c then some .quote else none
  | .quote, '"' => some .quoteEnd
  | .quote, c => if isQuotable c then some .quote else none
  | .quoteEnd, ';' => some .between
  | .quoteEnd, ' ' => some .quoteEnd
  | .quoteEnd, _ => none

/-- Whether the parameters may end here. -/
def ParameterPhase.complete : ParameterPhase → Bool
  | .between | .valueStart | .token | .quoteEnd => true
  | .name | .quoteStart | .quote => false

def areParameters (text : List Char) : Bool :=
  (text.foldlM ParameterPhase.step .between).any ParameterPhase.complete

/-- Characters that a header value may hold, to be read as text. -/
def isHeaderChar (c : Char) : Bool :=
  c == '\t' || (0x20 ≤ c.toNat && c.toNat < 0x7f)

/-- The subtype before its last plus sign, and the suffix behind it. -/
def splitSuffix (subtype : List Char) : List Char × Option (List Char) :=
  match subtype with
  | [] => ([], none)
  | first :: rest =>
      let reversed := rest.reverse
      match reversed.dropWhile (· ≠ '+') with
      | [] => (subtype, none)
      | _ :: before => (first :: before.reverse, some (reversed.takeWhile (· ≠ '+')).reverse)

/-- Whether the type and subtype say that a body is JSON. -/
def namesJson (type subtype : List Char) : Bool :=
  let (base, suffix) := splitSuffix subtype
  String.ofList type == "application" &&
    (String.ofList base == "json" || suffix.any fun chars => String.ofList chars == "json")

/-- Whether a content type says that the body is JSON. -/
def isJson (header : String) : Bool :=
  let text := header.toList.map Char.toLower
  let type := text.takeWhile isTokenChar
  match text.dropWhile isTokenChar with
  | '/' :: rest =>
      let subtype := rest.takeWhile isTokenChar
      let welcome := text.all isHeaderChar && type ≠ [] && namesJson type subtype
      match rest.dropWhile isTokenChar with
      | [] => welcome
      | ';' :: parameters => welcome && subtype ≠ [] && areParameters parameters
      | _ => false
  | _ => false

end AvailabilityGate.Http.MediaType
