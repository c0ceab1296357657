import AvailabilityGate.Text.Bytes

/-!
Owns the reading of URIs: an absolute one with scheme and authority, an authority alone, or a path
with an optional query. A fragment is dropped. The first fault in the text wins.
-/

namespace AvailabilityGate.Http

/-- Ways in which a text fails to be a URI. -/
inductive UriFault where
  | empty
  | tooLong
  | schemeTooLong
  | badCharacter
  | badAuthority
  | badFormat
deriving DecidableEq, Repr

/-- The fault in a sentence. -/
def UriFault.message : UriFault → String
  | .empty => "empty string"
  | .tooLong => "uri too long"
  | .schemeTooLong => "scheme too long"
  | .badCharacter => "invalid uri character"
  | .badAuthority => "invalid authority"
  | .badFormat => "invalid format"

/-- The fault by its name. -/
def UriFault.name : UriFault → String
  | .empty => "Empty"
  | .tooLong => "TooLong"
  | .schemeTooLong => "SchemeTooLong"
  | .badCharacter => "InvalidUriChar"
  | .badAuthority => "InvalidAuthority"
  | .badFormat => "InvalidFormat"

structure Uri where
  scheme : Option String := none
  authority : Option String := none
  path : String := ""
  query : Option String := none
deriving DecidableEq, Repr

namespace Uri

def lengthLimit : Nat := 65534

def schemeLimit : Nat := 64

def isSchemeChar (c : Char) : Bool :=
  c.isAlphanum || c == '+' || c == '-' || c == '.' || c == '~'

/-- Characters that may stand in an authority without being escaped. -/
def isAuthorityChar (c : Char) : Bool :=
  c.isAlphanum || "!$&'()*+,-.:;=@[]_~".toList.contains c

/-- Characters that end an authority. -/
def endsAuthority (c : Char) : Bool :=
  c == '/' || c == '?' || c == '#'

/-- Characters that may stand in a query; all others beyond ASCII may too. -/
def isQueryChar (c : Char) : Bool :=
  0x80 ≤ c.toNat ||
    (0x21 ≤ c.toNat && c.toNat ≤ 0x7e && c != '"' && c != '#' && c != '<' && c != '>')

/-- Characters that may stand in a path; all others beyond ASCII may too. -/
def isPathChar (c : Char) : Bool :=
  0x80 ≤ c.toNat ||
    (0x21 ≤ c.toNat && c.toNat ≤ 0x7e && c != '#' && c != '<' && c != '>' && c != '?' &&
      c != (Char.ofNat 0x60))

/-- What was seen so far of an authority. -/
structure AuthorityScan where
  /-- Colons since the last bracket or at sign. -/
  colons : Nat := 0
  opened : Bool := false
  closed : Bool := false
  /-- A percent sign since the last bracket or at sign. -/
  percent : Bool := false
  /-- The last character was an at sign. -/
  endsWithAt : Bool := false

def colonLimit : Nat := 8

def AuthorityScan.step (scan : AuthorityScan) (c : Char) : Except UriFault AuthorityScan :=
  match c with
  | ':' =>
      if colonLimit ≤ scan.colons then .error .badAuthority
      else .ok { scan with colons := scan.colons + 1, endsWithAt := false }
  | '[' =>
      if scan.percent || scan.opened then .error .badAuthority
      else .ok { scan with opened := true, endsWithAt := false }
  | ']' =>
      if !scan.opened || scan.closed then .error .badAuthority
      else .ok { scan with closed := true, colons := 0, percent := false, endsWithAt := false }
  | '@' => .ok { scan with colons := 0, percent := false, endsWithAt := true }
  | '%' => .ok { scan with percent := true, endsWithAt := false }
  | c =>
      if isAuthorityChar c then .ok { scan with endsWithAt := false }
      else .error .badCharacter

/-- At most one colon is left for the number behind it, brackets are paired, something stands
behind an at sign, and only what stands before it or in brackets is escaped. -/
def AuthorityScan.finish (scan : AuthorityScan) : Except UriFault Unit :=
  if scan.opened != scan.closed || 1 < scan.colons || scan.endsWithAt || scan.percent then
    .error .badAuthority
  else .ok ()

def checkAuthority (authority : List Char) : Except UriFault Unit := do
  (← authority.foldlM AuthorityScan.step {}).finish

/-- An authority and what stands behind it; there must be something. -/
def splitAuthority (text : List Char) : Except UriFault (List Char × List Char) := do
  if text = [] then .error .empty
  let authority := text.takeWhile fun c => !endsAuthority c
  checkAuthority authority
  return (authority, text.dropWhile fun c => !endsAuthority c)

/-- The query before a fragment. -/
def readQuery (text : List Char) : Except UriFault String :=
  let query := text.takeWhile (· != '#')
  if query.all isQueryChar then .ok (String.ofList query) else .error .badCharacter

/-- A path and the query behind it. -/
def readPath (text : List Char) : Except UriFault (String × Option String) := do
  let path := text.takeWhile isPathChar
  match text.dropWhile isPathChar with
  | [] => return (String.ofList path, none)
  | '#' :: _ => return (String.ofList path, none)
  | '?' :: rest => return (String.ofList path, some (← readQuery rest))
  | _ => .error .badCharacter

/-- The least length of a text that has a scheme. -/
def leastWithScheme : Nat := 4

/-- The scheme of an absolute URI, and what stands behind its `://`. -/
def splitScheme (text : List Char) : Except UriFault (Option (List Char × List Char)) :=
  let scheme := text.takeWhile isSchemeChar
  match text.dropWhile isSchemeChar with
  | ':' :: '/' :: '/' :: rest =>
      if text.length < leastWithScheme then .ok none
      else if schemeLimit < scheme.length then .error .schemeTooLong
      else .ok (some (scheme, rest))
  | _ => .ok none

/-- An absolute URI, or an authority alone. -/
def readAbsolute (text : List Char) : Except UriFault Uri := do
  match ← splitScheme text with
  | none =>
      let (authority, rest) ← splitAuthority text
      if rest ≠ [] then .error (if text.length = 1 then .badCharacter else .badFormat)
      else return { authority := some (String.ofList authority) }
  | some (scheme, rest) =>
      let (authority, rest) ← splitAuthority rest
      if authority = [] then .error .badFormat
      else
        let (path, query) ← readPath rest
        return {
          scheme := some (String.ofList scheme)
          authority := some (String.ofList authority)
          path := if path = "" then "/" else path
          query }

def parse (text : String) : Except UriFault Uri :=
  let chars := text.toList
  if lengthLimit < Text.byteLength chars then .error .tooLong
  else
    match chars with
    | [] => .error .empty
    | ['*'] => .ok { path := "*" }
    | '/' :: _ => do
        let (path, query) ← readPath chars
        return { path, query }
    | _ => readAbsolute chars

/-- The path and the query as a request line shows them. -/
def pathAndQuery (uri : Uri) : String :=
  match uri.query with
  | none => uri.path
  | some query => uri.path ++ "?" ++ query

end Uri

end AvailabilityGate.Http
