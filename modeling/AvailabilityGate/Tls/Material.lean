import AvailabilityGate.OsFault
import AvailabilityGate.Tls.Pem

/-!
Owns what a server needs to speak TLS: a chain of certificates and one private key, both from PEM
files. The chain may stand among other sections, and so may the key; both files are read before
either is looked at.

Does not own the cryptography: whether the key fits the certificate is not looked at.
-/

namespace AvailabilityGate.Tls

/-- Why there is no TLS. -/
inductive MaterialFault where
  | unreadable (path : String) (fault : OsFault)
  | badPem (fault : PemFault)
  | notOneKey
  | unknownKeyFormat
  | unusableKey
  | noCertificate
  | badCertificate
deriving DecidableEq, Repr

def MaterialFault.message : MaterialFault → String
  | .unreadable path fault => "failed to read from file `" ++ path ++ "`: " ++ fault.message
  | .badPem fault => fault.message
  | .notOneKey => "private key format not supported"
  | .unknownKeyFormat => "unknown or invalid key format"
  | .unusableKey => "unexpected error: failed to parse private key as RSA, ECDSA, or EdDSA"
  | .noCertificate => "peer sent no certificates"
  | .badCertificate => "invalid peer certificate: BadEncoding"

namespace Der

/-- The number that bytes stand for, the most significant one first. -/
def number (bytes : List UInt8) : Nat :=
  bytes.foldl (fun value byte => value * 256 + byte.toNat) 0

/-- The content of a sequence, as far as its length is not looked at. -/
def opened? : List UInt8 → Option (List UInt8)
  | tag :: size :: rest =>
      if tag ≠ 0x30 then none
      else if size < 0x80 then some rest
      else if size.toNat - 0x80 ≤ rest.length then some (rest.drop (size.toNat - 0x80))
      else none
  | _ => none

/-- The length that a sequence gives for its content. -/
def length? : List UInt8 → Option Nat
  | _ :: size :: rest =>
      if size < 0x80 then some size.toNat else some (number (rest.take (size.toNat - 0x80)))
  | _ => none

/-- Whether bytes are one sequence and nothing else. -/
def isSequence (bytes : List UInt8) : Bool :=
  (opened? bytes).any fun content => length? bytes == some content.length

end Der

/-- Whether the content of a key starts like one of the three formats: a version, and behind it the
name of an algorithm or the parts of the key. -/
def startsLikeKey : List UInt8 → Bool
  | 0x02 :: 0x01 :: version :: rest =>
      rest.head? == some 0x30 || version == 0 || version == 1
  | _ => false

def checkKey (key : List UInt8) : Except MaterialFault Unit :=
  if !(Der.opened? key).any startsLikeKey then .error .unknownKeyFormat
  else if !Der.isSequence key then .error .unusableKey
  else .ok ()

/-- The certificates in a PEM text. -/
def certificates (text : String) : Except MaterialFault (List (List UInt8)) := do
  let sections ← ((Pem.sections text).mapM id).mapError .badPem
  return (sections.filter fun part => part.label = .certificate).map PemSection.body

/-- The private keys in a PEM text; what is no section is passed over. -/
def privateKeys (text : String) : List (List UInt8) :=
  (Pem.sections text).filterMap fun part =>
    match part with
    | .ok found => if found.label.isPrivateKey then some found.body else none
    | .error _ => none

/-- A chain and a key that a server can use. -/
structure Material where
  chain : List (List UInt8)
  key : List UInt8
deriving DecidableEq, Repr

/-- Reads the material from the texts of the two files. -/
def Material.parse (chainText keyText : String) : Except MaterialFault Material := do
  let chain ← certificates chainText
  match privateKeys keyText with
  | [key] =>
      checkKey key
      match chain with
      | [] => .error .noCertificate
      | first :: _ => if Der.isSequence first then return ⟨chain, key⟩ else .error .badCertificate
  | _ => .error .notOneKey

/-- Loads the material from two files. -/
def Material.load {m : Type → Type} [Monad m] (fileText : String → m (Except OsFault String))
    (chainPath keyPath : String) : m (Except MaterialFault Material) := do
  match ← fileText chainPath with
  | .error fault => return .error (.unreadable chainPath fault)
  | .ok chainText =>
      match ← fileText keyPath with
      | .error fault => return .error (.unreadable keyPath fault)
      | .ok keyText => return Material.parse chainText keyText

end AvailabilityGate.Tls
