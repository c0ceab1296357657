import AvailabilityGate.Text.Bytes
import AvailabilityGate.Text.Pattern
import AvailabilityGate.Text.Quoted

/-!
Owns the syntax of label keys and label values.

A name has at most 63 bytes, consists of letters, digits, `-`, `_` and `.`, and starts and ends
with a letter or digit. A key is a name, with an optional prefix and a slash before it; the prefix
is a lowercase DNS name of at most 253 bytes. A value is a name or empty.
-/

namespace AvailabilityGate.Label

open Text (Pattern)

def nameLimit : Nat := 63

def prefixLimit : Nat := 253

def letterOrDigit : List (Char × Char) :=
  [('A', 'Z'), ('a', 'z'), ('0', '9')]

def lowercaseOrDigit : List (Char × Char) :=
  [('a', 'z'), ('0', '9')]

def namePattern : Pattern :=
  .seq
    (.optional (.seq (.oneOf letterOrDigit)
      (.star (.oneOf (('-', '-') :: letterOrDigit ++ [('_', '_'), ('.', '.')])))))
    (.oneOf letterOrDigit)

/-- One part of a DNS name. -/
def dnsLabelPattern : Pattern :=
  .seq (.oneOf lowercaseOrDigit)
    (.optional (.seq (.star (.oneOf (('-', '-') :: lowercaseOrDigit))) (.oneOf lowercaseOrDigit)))

def dnsNamePattern : Pattern :=
  .seq dnsLabelPattern (.star (.seq (.oneOf [('.', '.')]) dnsLabelPattern))

def valuePattern : Pattern :=
  .optional namePattern

/-- What is wrong with a key. -/
inductive KeyFault where
  | emptyPrefix
  | longPrefix
  | badPrefix
  | emptyName
  | longName
  | badName
deriving DecidableEq, Repr

/-- What is wrong with a value. -/
inductive ValueFault where
  | longValue
  | badValue
deriving DecidableEq, Repr

def KeyFault.detail : KeyFault → String
  | .emptyPrefix => "prefix part must be non-empty"
  | .longPrefix => "prefix part must be no more than " ++ toString prefixLimit ++ " characters"
  | .badPrefix => "prefix part must be a lowercase DNS subdomain"
  | .emptyName => "name part must be non-empty"
  | .longName => "name part must be no more than " ++ toString nameLimit ++ " characters"
  | .badName =>
      "name part must consist of alphanumeric characters, '-', '_' or '.', and must start and " ++
        "end with an alphanumeric character"

def KeyFault.message (key : String) (fault : KeyFault) : String :=
  "invalid label key " ++ Text.quoted key ++ ": " ++ fault.detail

def ValueFault.detail : ValueFault → String
  | .longValue => "must be no more than " ++ toString nameLimit ++ " characters"
  | .badValue =>
      "must be empty or consist of alphanumeric characters, '-', '_' or '.', and must start and " ++
        "end with an alphanumeric character"

def ValueFault.message (value : String) (fault : ValueFault) : String :=
  "invalid label value " ++ Text.quoted value ++ ": " ++ fault.detail

def checkPrefix (text : List Char) : Except KeyFault Unit :=
  if text = [] then .error .emptyPrefix
  else if prefixLimit < Text.byteLength text then .error .longPrefix
  else if dnsNamePattern.fits text then .ok ()
  else .error .badPrefix

def checkName (text : List Char) : Except KeyFault Unit :=
  if text = [] then .error .emptyName
  else if nameLimit < Text.byteLength text then .error .longName
  else if namePattern.fits text then .ok ()
  else .error .badName

/-- The text before the first slash, if there is a slash, and the text behind it. -/
def splitKey (key : List Char) : Option (List Char) × List Char :=
  match key.dropWhile (· ≠ '/') with
  | [] => (none, key)
  | _ :: name => (some (key.takeWhile (· ≠ '/')), name)

def checkKey (key : String) : Except KeyFault Unit :=
  match splitKey key.toList with
  | (none, name) => checkName name
  | (some before, name) => do
      checkPrefix before
      checkName name

def checkValue (value : String) : Except ValueFault Unit :=
  if nameLimit < Text.byteLength value.toList then .error .longValue
  else if valuePattern.fits value.toList then .ok ()
  else .error .badValue

end AvailabilityGate.Label
