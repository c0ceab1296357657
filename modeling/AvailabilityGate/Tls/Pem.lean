import AvailabilityGate.Text.Quoted
import AvailabilityGate.Tls.Base64

/-!
Owns PEM text: sections of base64 between a line that begins them and a line that ends them, each
with a label. Text outside of sections, and sections with labels that are not known here, are passed
over and not looked at.
-/

namespace AvailabilityGate.Tls

/-- The sections that are read. -/
inductive PemLabel where
  | certificate
  | publicKey
  | pkcs1Key
  | pkcs8Key
  | sec1Key
  | revocationList
  | signingRequest
  | helloConfig
deriving DecidableEq, Repr

def PemLabel.table : List (String × PemLabel) :=
  [("CERTIFICATE", .certificate), ("PUBLIC KEY", .publicKey), ("RSA PRIVATE KEY", .pkcs1Key),
    ("PRIVATE KEY", .pkcs8Key), ("EC PRIVATE KEY", .sec1Key), ("X509 CRL", .revocationList),
    ("CERTIFICATE REQUEST", .signingRequest), ("ECHCONFIG", .helloConfig)]

def PemLabel.isPrivateKey : PemLabel → Bool
  | .pkcs1Key | .pkcs8Key | .sec1Key => true
  | _ => false

structure PemSection where
  label : PemLabel
  body : List UInt8
deriving DecidableEq, Repr

inductive PemFault where
  | illegalStart (line : String)
  | missingEnd (label : String)
  | badBase64 (fault : Base64Fault)
deriving DecidableEq, Repr

def PemFault.message : PemFault → String
  | .illegalStart line => "illegal section start: " ++ Text.quoted line
  | .missingEnd label => "section end " ++ Text.quoted label ++ " missing"
  | .badBase64 fault => fault.details

namespace Pem

/-- A section that has begun: its label, and its lines so far. -/
structure Begun where
  label : String
  body : List Char := []

def beginMark : List Char := "-----BEGIN ".toList

def endMark (label : String) : List Char :=
  ("-----END " ++ label ++ "-----").toList

/-- Characters that do not count among the dashes at the end of a line. -/
def isLineBlank (c : Char) : Bool :=
  c == '\n' || c == '\r' || c == ' '

/-- The label on a line that begins a section: it reaches to the first of exactly five dashes at the
end of the line. -/
def labelOf? (line : List Char) : Option String :=
  let isTrailer (c : Char) : Bool := c == '-' || isLineBlank c
  let reversed := (line.drop beginMark.length).reverse
  let trailer := (reversed.takeWhile isTrailer).reverse
  let label := (reversed.dropWhile isTrailer).reverse
  if trailer.count '-' = 5 then some (String.ofList (label ++ trailer.takeWhile (· ≠ '-')))
  else none

/-- What a section stands for at its end; nothing if its label is not known. -/
def complete (begun : Begun) : List (Except PemFault PemSection) :=
  match PemLabel.table.lookup begun.label with
  | none => []
  | some label =>
      match Base64.decode begun.body with
      | .error fault => [.error (.badBase64 fault)]
      | .ok body => [.ok ⟨label, body⟩]

def readLines : Option Begun → List (List Char) → List (Except PemFault PemSection)
  | none, [] => []
  | some begun, [] => [.error (.missingEnd begun.label)]
  | open?, line :: rest =>
      if beginMark.isPrefixOf line then
        match labelOf? line with
        | none => .error (.illegalStart (String.ofList line)) :: readLines none rest
        | some label => readLines (some ⟨label, (open?.map Begun.body).getD []⟩) rest
      else
        match open? with
        | none => readLines none rest
        | some begun =>
            if (endMark begun.label).isPrefixOf line then complete begun ++ readLines none rest
            else readLines (some { begun with body := begun.body ++ line }) rest

/-- The lines of a text, each with the character that ends it. -/
def splitLines : List Char → List (List Char)
  | [] => []
  | c :: rest =>
      if c = '\n' ∨ c = '\r' then [c] :: splitLines rest
      else
        match splitLines rest with
        | [] => [[c]]
        | line :: lines => (c :: line) :: lines

/-- The sections of a text in order, and the faults in between. -/
def sections (text : String) : List (Except PemFault PemSection) :=
  readLines none (splitLines text.toList)

end Pem

end AvailabilityGate.Tls
