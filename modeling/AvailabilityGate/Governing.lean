import AvailabilityGate.Policy.Basic

/-!
Owns the choice of the policy that governs an object: of the policies whose selector takes the
object's labels, the one of greatest weight, and of several such the one whose name comes first.

`resolve` goes through the candidates once and does not look at the selector of a candidate that
the current choice outweighs, so a malformed selector there does no harm; any other malformed
selector fails the choice.
-/

namespace AvailabilityGate

/-- What a policy without a selector takes. -/
inductive UnsetSelector where
  | matchNone
  | matchAll
deriving DecidableEq, Repr

/-- A candidate's selector stands for nothing. -/
inductive ResolveFault where
  | invalidSelector (policy : String) (reason : String)
deriving DecidableEq, Repr

def ResolveFault.message : ResolveFault → String
  | .invalidSelector policy reason =>
      "invalid label selector on policy " ++ policy ++ ": " ++ reason

namespace Policy

/-- Whether the policy takes an object with the given labels. -/
def selects (unset : UnsetSelector) (labels : Table String) (policy : Policy) :
    Except ResolveFault Bool :=
  match policy.spec.selector with
  | none => .ok (unset == .matchAll)
  | some selector =>
      (selector.selects labels).mapError fun fault =>
        .invalidSelector policy.qualifiedName fault.message

/-- The policy would be chosen over `current`, both taking the object. -/
def Preferred (policy current : Policy) : Prop :=
  current.spec.weight < policy.spec.weight ∨
    (current.spec.weight = policy.spec.weight ∧ policy.displayName < current.displayName)

instance (policy current : Policy) : Decidable (policy.Preferred current) :=
  inferInstanceAs (Decidable (_ ∨ _))

/-- One candidate, given the choice among the candidates before it. -/
def choose
    (unset : UnsetSelector)
    (labels : Table String)
    (current : Option Policy)
    (candidate : Policy) :
    Except ResolveFault (Option Policy) :=
  match current with
  | none => do
      let taken ← candidate.selects unset labels
      return if taken then some candidate else none
  | some chosen =>
      if candidate.spec.weight < chosen.spec.weight then .ok (some chosen)
      else do
        let taken ← candidate.selects unset labels
        return if taken ∧ candidate.Preferred chosen then some candidate else some chosen

/-- The governing policy, if any of the candidates takes the object. -/
def resolve (unset : UnsetSelector) (labels : Table String) (candidates : List Policy) :
    Except ResolveFault (Option Policy) :=
  candidates.foldlM (choose unset labels) none

end Policy

end AvailabilityGate
