import AvailabilityGate.CommandLine.Arguments
import AvailabilityGate.Proofs.Fallible
import Mathlib.Data.List.Basic

/-!
Owns assignments: flags with the values that are written for them, as arguments, and what they do to
the level on which they stand.

Main statement: the values of a row of assignments are stored one after another, although each is
looked at only when the next flag, or the end, is reached.
-/

namespace AvailabilityGate.CommandLine

namespace Argument

/-- What is written for an argument. -/
def text : Argument → String
  | .separator => "--"
  | .long name none => "--" ++ name
  | .long name (some value) => "--" ++ name ++ "=" ++ value
  | .short letters => String.ofList ('-' :: letters)
  | .word text => text

/-- An argument that is no flag: a hyphen does not begin it, or is all of it. -/
def IsWord (text : String) : Prop :=
  text = "-" ∨ ∀ c ∈ text.toList.head?, c ≠ '-'

theorem ofText_of_isWord {text : String} (isWord : IsWord text) : ofText text = .word text := by
  rcases isWord with rfl | begins
  · rfl
  · unfold ofText
    split
    all_goals first | rfl | simp_all

/-- The form of an argument leaves nothing out of it. -/
theorem text_ofText (argument : String) : (ofText argument).text = argument := by
  apply String.toList_injective
  unfold ofText
  split
  case h_2 rest _ isArgument =>
    have divided := List.takeWhile_append_dropWhile (p := (· ≠ '=')) (l := rest)
    split
    case h_1 nothing =>
      rw [nothing, List.append_nil] at divided
      rw [text, divided, isArgument]
      simp
    case h_2 c value found =>
      have stopped := List.head?_dropWhile_not (· ≠ '=') rest
      rw [found] at stopped divided
      obtain rfl : c = '=' := by simpa using stopped
      generalize rest.takeWhile (· ≠ '=') = name at divided ⊢
      rw [text, isArgument, ← divided]
      simp
  all_goals simp_all [text]

theorem text_of_ofText {argument : String} {form : Argument} (isForm : ofText argument = form) :
    argument = form.text := by
  rw [← isForm, text_ofText]

theorem isWord_of_ofText {argument word : String} (isForm : ofText argument = .word word) :
    word = argument ∧ IsWord argument := by
  obtain rfl : argument = word := text_of_ofText isForm
  refine ⟨rfl, ?_⟩
  unfold ofText at isForm
  split at isForm
  case h_3 isHyphen => exact .inl (String.toList_injective isHyphen)
  case h_5 noHyphen =>
    refine .inr fun c isFirst isHyphen => ?_
    obtain ⟨rest, isText⟩ := List.head?_eq_some_iff.mp isFirst
    exact noHyphen _ (isHyphen ▸ isText)
  all_goals (try split at isForm) <;> cases isForm

theorem ofText_flag (flag : Flag) : ofText ("--" ++ flag.name) = .long flag.name none := by
  cases flag <;> decide +kernel

theorem ofText_joined (flag : Flag) (value : String) :
    ofText ("--" ++ flag.name ++ "=" ++ value) = .long flag.name (some value) := by
  have plain : flag.name.toList.all (· ≠ '=') = true := by cases flag <;> decide +kernel
  have isText : ("--" ++ flag.name ++ "=" ++ value).toList =
      '-' :: '-' :: (flag.name.toList ++ '=' :: value.toList) := by
    simp
  have isName : (flag.name.toList ++ '=' :: value.toList).takeWhile (· ≠ '=') =
      flag.name.toList := by
    rw [List.takeWhile_append_of_pos (List.all_eq_true.mp plain)]
    simp
  have isRest : (flag.name.toList ++ '=' :: value.toList).dropWhile (· ≠ '=') =
      '=' :: value.toList := by
    rw [List.dropWhile_append_of_pos (List.all_eq_true.mp plain)]
    simp
  -- What stands behind the hyphens is not empty, so this is no separator.
  obtain ⟨c, rest, isCons⟩ : ∃ c rest, flag.name.toList ++ '=' :: value.toList = c :: rest :=
    List.exists_cons_of_ne_nil (by simp)
  rw [isCons] at isText isName isRest
  unfold ofText
  rw [isText]
  simp only [isName, isRest, String.ofList_toList]

end Argument

theorem Flag.ofName?_name (flag : Flag) : Flag.ofName? flag.name = some flag := by
  cases flag <;> rfl

theorem Flag.name_of_ofName? {name : String} {flag : Flag}
    (found : Flag.ofName? name = some flag) : name = flag.name := by
  simpa [eq_comm] using List.find?_some found

theorem Subcommand.ofName?_name (command : Subcommand) :
    Subcommand.ofName? command.name = some command := by
  cases command <;> rfl

theorem Subcommand.name_of_ofName? {name : String} {command : Subcommand}
    (found : Subcommand.ofName? name = some command) : name = command.name := by
  simpa [eq_comm] using List.find?_some found

theorem Subcommand.isWord_name (command : Subcommand) : Argument.IsWord command.name := by
  refine .inr fun c isFirst => ?_
  cases command <;> cases isFirst <;> decide

/-- A flag with the value that is written for it, in the argument of the flag or in the next one. -/
inductive Assignment where
  | joined (flag : Flag) (value : String)
  | apart (flag : Flag) (value : String) (isWord : Argument.IsWord value)

namespace Assignment

def flag : Assignment → Flag
  | .joined flag _ | .apart flag _ _ => flag

def value : Assignment → String
  | .joined _ value | .apart _ value _ => value

def arguments : Assignment → List String
  | .joined flag value => ["--" ++ flag.name ++ "=" ++ value]
  | .apart flag value _ => ["--" ++ flag.name, value]

end Assignment

namespace Level

/-- Stores the value that is written for a flag. -/
def assign (level : Level) (assignment : Assignment) : Except UsageFault Level :=
  level.accept assignment.flag (some assignment.value)

/-- Reads an assignment. A value in an argument of its own is not looked at yet. -/
def take (level : Level) : Assignment → Except UsageFault Level
  | .joined flag value => do (← level.settle).accept flag (some value)
  | .apart flag value _ => do return { ← level.settle with pending := some (flag, some value) }

/-- The flag that has been read without a value, as it is written. -/
def owed (level : Level) : List String :=
  match level.pending with
  | some (flag, none) => ["--" ++ flag.name]
  | _ => []

variable {level after : Level} {assignment : Assignment} {assignments : List Assignment}

theorem isPending_or_owed (level : Level) :
    (∃ flag, level.pending = some (flag, none)) ∨ level.owed = [] := by
  unfold owed
  split
  · next flag isPending => exact .inl ⟨flag, isPending⟩
  · exact .inr rfl

theorem owed_of_settle (settles : level.settle = .ok after) : level.owed = [] := by
  rcases level.isPending_or_owed with ⟨flag, isPending⟩ | owesNothing
  · rw [settle, isPending] at settles
    cases settles
  · exact owesNothing

/-- A value that is accepted is there, and is stored. -/
theorem exists_of_accept {flag : Flag} {value : Option String}
    (accepts : level.accept flag value = .ok after) :
    ∃ text settings, value = some text ∧
      level.settings.store flag (level.given.contains flag) text = .ok settings ∧
      after = { settings, given := flag :: level.given } := by
  unfold accept at accepts
  cases value with
  | none => cases accepts
  | some text =>
      obtain ⟨-, stores⟩ := Fallible.ite_error_eq_ok_iff.mp accepts
      obtain ⟨settings, stored, isAfter⟩ := Fallible.bind_eq_ok_iff.mp stores
      exact ⟨text, settings, rfl, stored, (Except.ok.inj isAfter).symm⟩

theorem pending_of_accept {flag : Flag} {value : Option String}
    (accepts : level.accept flag value = .ok after) : after.pending = none := by
  obtain ⟨text, settings, -, -, rfl⟩ := exists_of_accept accepts
  rfl

theorem owed_of_accept {flag : Flag} {value : Option String}
    (accepts : level.accept flag value = .ok after) : after.owed = [] := by
  rw [owed, pending_of_accept accepts]

theorem owed_of_take (takes : level.take assignment = .ok after) : after.owed = [] := by
  cases assignment with
  | joined flag value =>
      obtain ⟨settled, -, accepts⟩ := Fallible.bind_eq_ok_iff.mp takes
      exact owed_of_accept accepts
  | apart flag value isWord =>
      obtain ⟨settled, -, isAfter⟩ := Fallible.bind_eq_ok_iff.mp takes
      cases isAfter
      rfl

theorem owed_of_foldlM_take (owesNothing : level.owed = [])
    (takes : assignments.foldlM take level = .ok after) : after.owed = [] := by
  induction assignments generalizing level with
  | nil =>
      cases takes
      exact owesNothing
  | cons head tail inductionHypothesis =>
      obtain ⟨next, takesHead, takesTail⟩ := Fallible.bind_eq_ok_iff.mp takes
      exact inductionHypothesis (owed_of_take takesHead) takesTail

theorem settle_accept {flag : Flag} {value : Option String} :
    level.accept flag value >>= settle = level.accept flag value := by
  cases accepted : level.accept flag value with
  | error fault => rfl
  | ok after =>
      show after.settle = .ok after
      rw [settle, pending_of_accept accepted]

theorem settle_take :
    level.take assignment >>= settle = level.settle >>= (assign · assignment) := by
  cases assignment with
  | joined flag value =>
      rw [take, bind_assoc]
      simp only [settle_accept]
      rfl
  | apart flag value isWord =>
      rw [take, bind_assoc]
      rfl

/-- Assignments are stored one after another, the last one at the end of the level. -/
theorem settle_foldlM_take :
    assignments.foldlM take level >>= settle = level.settle >>= assignments.foldlM assign := by
  induction assignments generalizing level with
  | nil => exact (bind_pure _).symm
  | cons head tail inductionHypothesis =>
      calc (head :: tail).foldlM take level >>= settle
          = level.take head >>= fun after => tail.foldlM take after >>= settle := by
            rw [List.foldlM_cons, bind_assoc]
        _ = (level.take head >>= settle) >>= tail.foldlM assign := by
            simp only [inductionHypothesis, bind_assoc]
        _ = level.settle >>= (head :: tail).foldlM assign := by
            rw [settle_take, bind_assoc]
            rfl

end Level

end AvailabilityGate.CommandLine
