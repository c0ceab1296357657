/-!
Owns regular expressions over characters, and whether a whole text fits one.

A text is read once, from left to right. What may still come is kept as a list of expressions, one
for each way in which the text can have been read so far; the text fits if in the end one of them
lets nothing come.
-/

namespace AvailabilityGate.Text

/-- A regular expression. -/
inductive Pattern where
  | empty
  /-- One character out of any of the ranges, both ends included. -/
  | oneOf (ranges : List (Char × Char))
  | seq (first second : Pattern)
  | optional (body : Pattern)
  | star (body : Pattern)
deriving DecidableEq, Repr

namespace Pattern

def within (ranges : List (Char × Char)) (c : Char) : Bool :=
  ranges.any fun range => range.1 ≤ c && c ≤ range.2

/-- Whether the empty text fits. -/
def skippable : Pattern → Bool
  | .empty => true
  | .oneOf _ => false
  | .seq first second => first.skippable && second.skippable
  | .optional _ => true
  | .star _ => true

/-- What may come behind a first character, for each way to read that. -/
def after (c : Char) : Pattern → List Pattern
  | .empty => []
  | .oneOf ranges => if within ranges c then [.empty] else []
  | .seq first second =>
      (first.after c).map (.seq · second) ++ if first.skippable then second.after c else []
  | .optional body => body.after c
  | .star body => (body.after c).map (.seq · (.star body))

def advance (patterns : List Pattern) (c : Char) : List Pattern :=
  patterns.flatMap (after c)

/-- Whether the whole text fits. -/
def fits (pattern : Pattern) (text : List Char) : Bool :=
  (text.foldl advance [pattern]).any skippable

end Pattern

end AvailabilityGate.Text
