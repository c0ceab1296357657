/-!
Owns base64 as it stands in PEM text. Blanks do not count. The digits come in groups of four; only
the last group may be filled up with padding, or may lack it, and the bits that make no whole byte
are dropped.

Main statement: `decode` looks at the padding of eight digits when a ninth one comes, so a character
that is no digit is reported first if it stands among them or right behind them.
-/

namespace AvailabilityGate.Tls

inductive Base64Fault where
  | invalidCharacter (byte : UInt8)
  /-- Padding that is not in the last group. -/
  | prematurePadding
  /-- The last group makes no bytes. -/
  | invalidTrailingPadding
deriving DecidableEq, Repr

/-- The fault by its name and its parts. -/
def Base64Fault.details : Base64Fault → String
  | .invalidCharacter byte => "InvalidCharacter(" ++ toString byte.toNat ++ ")"
  | .prematurePadding => "PrematurePadding"
  | .invalidTrailingPadding => "InvalidTrailingPadding"

namespace Base64

/-- A character by what it stands for. -/
inductive Symbol where
  | digit (value : Nat)
  | padding
deriving DecidableEq, Repr

/-- The six bits that a character stands for. -/
def sextet? (c : Char) : Option Nat :=
  if c.isUpper then some (c.toNat - 'A'.toNat)
  else if c.isLower then some (c.toNat - 'a'.toNat + 26)
  else if c.isDigit then some (c.toNat - '0'.toNat + 52)
  else if c = '+' then some 62
  else if c = '/' then some 63
  else none

def symbol? (c : Char) : Option Symbol :=
  if c = '=' then some .padding else (sextet? c).map .digit

def isBlank (c : Char) : Bool :=
  c == ' ' || (0x09 ≤ c.toNat && c.toNat ≤ 0x0d)

/-- The first byte of a character. -/
def firstByte (c : Char) : UInt8 :=
  (String.utf8EncodeChar c).headD 0

/-- The three bytes of four digits. -/
def bytes (a b c d : Nat) : List UInt8 :=
  let bits := ((a * 64 + b) * 64 + c) * 64 + d
  [UInt8.ofNat (bits / 65536), UInt8.ofNat (bits / 256), UInt8.ofNat bits]

/-- The bytes of the last group. -/
def lastGroup : List Symbol → Except Base64Fault (List UInt8)
  | [] => .ok []
  | [.digit a, .digit b, .digit c, .digit d] => .ok (bytes a b c d)
  | [.digit a, .digit b, .digit c, .padding] => .ok ((bytes a b c 0).take 2)
  | [.digit a, .digit b, .digit c] => .ok ((bytes a b c 0).take 2)
  | [.digit a, .digit b, .padding, .padding] => .ok ((bytes a b 0 0).take 1)
  | [.digit a, .digit b] => .ok ((bytes a b 0 0).take 1)
  | _ => .error .invalidTrailingPadding

/-- The bytes of a group that is not the last one. -/
def fullGroup : List Symbol → Except Base64Fault (List UInt8)
  | [.digit a, .digit b, .digit c, .digit d] => .ok (bytes a b c d)
  | _ => .error .prematurePadding

/-- The bytes of up to eight symbols with nothing behind them. -/
def lastBlock (block : List Symbol) : Except Base64Fault (List UInt8) :=
  if block.length ≤ 4 then lastGroup block
  else do return (← fullGroup (block.take 4)) ++ (← lastGroup (block.drop 4))

/-- The bytes of eight symbols with more behind them. -/
def fullBlock (block : List Symbol) : Except Base64Fault (List UInt8) := do
  return (← fullGroup (block.take 4)) ++ (← fullGroup (block.drop 4))

/-- Decodes what stands behind a block of symbols that was begun. -/
def decodeFrom (block : List Symbol) : List Char → Except Base64Fault (List UInt8)
  | [] => lastBlock block
  | c :: rest =>
      if isBlank c then decodeFrom block rest
      else
        match symbol? c with
        | none => .error (.invalidCharacter (firstByte c))
        | some symbol =>
            if block.length < 8 then decodeFrom (block ++ [symbol]) rest
            else do return (← fullBlock block) ++ (← decodeFrom [symbol] rest)

def decode (text : List Char) : Except Base64Fault (List UInt8) :=
  decodeFrom [] text

end Base64

end AvailabilityGate.Tls
