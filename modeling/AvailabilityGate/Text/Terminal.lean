/-!
Owns text for terminals: how a part of it is made to stand out, and what is left of a text where no
terminal shows it. There control sequences and control characters are left out, those of the user
too, and only the controls that are blanks stay.

Main statement: text without controls is left as it is (`plain_of_printable`).
-/

namespace AvailabilityGate.Text.Terminal

/-- What a terminal takes the next character for. -/
inductive State where
  | ground
  /-- Behind an escape character. -/
  | escape
  /-- In an escape sequence that is ended by a letter or a digit. -/
  | sequence
  /-- In a control sequence, which is ended by a letter. -/
  | control
  /-- In a command to the system, which is ended by a bell. -/
  | command
  /-- In a string that only a new escape ends. -/
  | string
deriving DecidableEq, Repr

/-- Controls that are blanks. -/
def isBlankControl (c : Char) : Bool :=
  c == '\t' || c == '\n' || c == '\x0c' || c == '\r'

def isControl (c : Char) : Bool :=
  c.toNat < 0x20 || c.toNat == 0x7f

/-- The state behind a letter, a digit or a sign that follows an escape character. -/
def afterEscape (c : Char) : State :=
  if c = '[' then .control
  else if c = ']' then .command
  else if c = 'P' ∨ c = 'X' ∨ c = '^' ∨ c = '_' then .string
  else if c.toNat < 0x30 then .sequence
  else .ground

/-- The state behind a character that is no control. -/
def afterPrintable : State → Char → State
  | .ground, _ => .ground
  | .escape, c => afterEscape c
  | .sequence, c => if c.toNat < 0x30 then .sequence else .ground
  | .control, c => if c.toNat < 0x40 then .control else .ground
  | .command, _ => .command
  | .string, _ => .string

/-- Whether a state takes no notice of blanks. -/
def State.isString : State → Bool
  | .command | .string => true
  | _ => false

/-- The state behind a character, and whether the character is shown. Nothing beyond ASCII belongs
to a sequence. -/
def step (state : State) (c : Char) : State × Bool :=
  if c = '\x1b' then (.escape, false)
  else if c = '\x18' ∨ c = '\x1a' then (.ground, false)
  else if 0x80 ≤ c.toNat then (.ground, true)
  else if !isControl c then (afterPrintable state c, state = .ground)
  else if isBlankControl c && !state.isString then (.ground, true)
  else if c = '\x07' ∧ state = .command then (.ground, false)
  else (state, false)

def plainFrom : State → List Char → List Char
  | _, [] => []
  | state, c :: rest =>
      let (next, shown) := step state c
      if shown then c :: plainFrom next rest else plainFrom next rest

/-- What is left of a text where no terminal shows it. -/
def plain (text : String) : String :=
  String.ofList (plainFrom .ground text.toList)

/-- A text that stands out. -/
def emphasized (text : String) : String :=
  "\x1b[1m" ++ text ++ "\x1b[0m"

theorem step_ground_of_printable {c : Char} (printable : isControl c = false) :
    step .ground c = (.ground, true) := by
  have above : 0x20 ≤ c.toNat := by
    simp only [isControl, Bool.or_eq_false_iff, decide_eq_false_iff_not] at printable
    omega
  have noEscape : c ≠ '\x1b' := by
    intro same
    subst same
    exact absurd above (by decide)
  have noCancel : ¬(c = '\x18' ∨ c = '\x1a') := by
    rintro (same | same) <;> subst same <;> exact absurd above (by decide)
  simp [step, noEscape, noCancel, printable, afterPrintable]

theorem plainFrom_ground_of_printable {text : List Char}
    (printable : ∀ c ∈ text, isControl c = false) : plainFrom .ground text = text := by
  induction text with
  | nil => rfl
  | cons c rest inductionHypothesis =>
      have first := step_ground_of_printable (printable c List.mem_cons_self)
      have others := inductionHypothesis fun d member =>
        printable d (List.mem_cons_of_mem c member)
      simp [plainFrom, first, others]

/-- Text without controls is left as it is. -/
theorem plain_of_printable {text : String}
    (printable : ∀ c ∈ text.toList, isControl c = false) : plain text = text := by
  simp [plain, plainFrom_ground_of_printable printable]

end AvailabilityGate.Text.Terminal
