import AvailabilityGate.Proofs.CommandLine.Assignment

/-!
Owns what a command line says: assignments to flags on the level of the program, and on that of a
subcommand.

Main statement: a command line is read as what it says, and a command line that says nothing of this
kind is not understood.
-/

namespace AvailabilityGate.CommandLine

theorem stopWith_bind {α β : Type} (first : Except UsageFault α) (next : α → Except UsageFault β) :
    stopWith (first >>= next) = stopWith first >>= fun value => stopWith (next value) := by
  cases first <;> rfl

/-! ### Flags -/

theorem longFlag_value (command : Option Subcommand) (level : Level) (flag : Flag)
    (value : String) :
    longFlag command level flag.name (some value) =
      stopWith level.settle >>= fun settled => stopWith (settled.accept flag (some value)) := by
  simp only [longFlag, Flag.ofName?_name]

theorem longFlag_alone (command : Option Subcommand) (level : Level) (flag : Flag) :
    longFlag command level flag.name none =
      stopWith level.settle >>= fun settled =>
        pure { settled with pending := some (flag, none) } := by
  simp only [longFlag, Flag.ofName?_name]

/-- What is no flag of its own ends the reading. -/
theorem longSwitch_ne_ok (level after : Level) (name : String) (value : Option String)
    (stop : Stop) : longSwitch level name value stop ≠ .ok after := by
  unfold longSwitch
  cases value with
  | none => cases level.settle <;> exact nofun
  | some value => exact nofun

/-- A group of letters always ends the reading. -/
theorem shortFlags_ne_ok (command : Option Subcommand) (level after : Level)
    (letters : List Char) : shortFlags command level letters ≠ .ok after := by
  unfold shortFlags
  split
  · cases level.settle <;> exact nofun
  · split
    · cases level.settle <;> exact nofun
    · exact nofun
  · exact nofun

/-- A flag is read only when nothing is owed to the one before it. -/
theorem owed_of_longFlag {command : Option Subcommand} {level after : Level} {name : String}
    {value : Option String} (reads : longFlag command level name value = .ok after) :
    ∃ flag : Flag, name = flag.name ∧ level.owed = [] ∧
      after.owed = match value with
        | none => ["--" ++ flag.name]
        | some _ => [] := by
  unfold longFlag at reads
  split at reads
  · next flag found =>
    obtain ⟨settled, settles, reads⟩ := Fallible.bind_eq_ok_iff.mp reads
    refine ⟨flag, Flag.name_of_ofName? found,
      Level.owed_of_settle (Fallible.mapError_eq_ok_iff.mp settles), ?_⟩
    cases value with
    | none =>
        cases reads
        rfl
    | some value => exact Level.owed_of_accept (Fallible.mapError_eq_ok_iff.mp reads)
  · split at reads
    · exact absurd reads (longSwitch_ne_ok _ _ _ _ _)
    · split at reads
      · exact absurd reads (longSwitch_ne_ok _ _ _ _ _)
      · cases reads

/-! ### Both levels at once -/

/-- What may stand behind the flags: nothing, or a separator. -/
def closing (closed : Bool) : List String :=
  if closed then ["--"] else []

/-- How a level is read but for its flags. -/
structure Scanner (γ : Type) where
  command : Option Subcommand
  /-- At the end of the arguments. -/
  finish : Level → γ
  /-- With an argument behind a separator. -/
  stray : String → UsageFault
  /-- With a word that is the value of no flag, and what stands behind it. -/
  word : Level → String → List String → Except Stop γ

namespace Scanner

variable {γ : Type} (scanner : Scanner γ)

/-- Reads flag by flag. -/
def scan (level : Level) : List String → Except Stop γ
  | [] => .ok (scanner.finish level)
  | argument :: rest =>
      match Argument.ofText argument with
      | .separator =>
          match rest with
          | [] => .ok (scanner.finish level)
          | stray :: _ => .error (.fault (scanner.stray stray))
      | .long name value => do scan (← longFlag scanner.command level name value) rest
      | .short letters => do scan (← shortFlags scanner.command level letters) rest
      | .word text =>
          match level.pending with
          | some (flag, none) => scan { level with pending := some (flag, some text) } rest
          | _ => scanner.word level text rest

def outer : Scanner (Level × Option (Subcommand × List String)) where
  command := none
  finish level := (level, none)
  stray := behindSeparator
  word level text rest :=
    if text = "help" then .error (helpStop rest)
    else
      match Subcommand.ofName? text with
      | some command => .ok (level, some (command, rest))
      | none => .error (.fault (.unknownSubcommand text))

def inner (command : Subcommand) : Scanner Level where
  command := some command
  finish level := level
  stray := .unknownArgument
  word _ text _ := .error (.fault (.unknownArgument text))

theorem readOuter_eq_scan (level : Level) (arguments : List String) :
    readOuter level arguments = outer.scan level arguments := by
  induction arguments generalizing level with
  | nil => rfl
  | cons argument rest inductionHypothesis =>
      rw [readOuter.eq_def, scan.eq_def]
      simp only [inductionHypothesis]
      rfl

theorem readInner_eq_scan (command : Subcommand) (level : Level) (arguments : List String) :
    readInner command level arguments = (inner command).scan level arguments := by
  induction arguments generalizing level with
  | nil => rfl
  | cons argument rest inductionHypothesis =>
      rw [readInner.eq_def, scan.eq_def]
      simp only [inductionHypothesis]
      rfl

variable {scanner}

theorem scan_long {argument name : String} {value : Option String}
    (isLong : Argument.ofText argument = .long name value) (level : Level) (rest : List String) :
    scanner.scan level (argument :: rest) =
      longFlag scanner.command level name value >>= fun after => scanner.scan after rest := by
  rw [scan.eq_def]
  simp only [isLong]

theorem scan_awaited {word : String} (isWord : Argument.IsWord word) {level : Level} {flag : Flag}
    (isPending : level.pending = some (flag, none)) (rest : List String) :
    scanner.scan level (word :: rest) =
      scanner.scan { level with pending := some (flag, some word) } rest := by
  rw [scan.eq_def]
  simp only [Argument.ofText_of_isWord isWord, isPending]

theorem scan_word {word : String} (isWord : Argument.IsWord word) {level : Level}
    (owesNothing : level.owed = []) (rest : List String) :
    scanner.scan level (word :: rest) = scanner.word level word rest := by
  rw [scan.eq_def]
  simp only [Argument.ofText_of_isWord isWord]
  split
  · next flag isPending => simp [Level.owed, isPending] at owesNothing
  · rfl

theorem scan_closing (level : Level) (closed : Bool) :
    scanner.scan level (closing closed) = .ok (scanner.finish level) := by
  cases closed <;> rfl

/-- An assignment is taken as soon as its arguments are read. -/
theorem scan_assignment (level : Level) (assignment : Assignment) (rest : List String) :
    scanner.scan level (assignment.arguments ++ rest) =
      stopWith (level.take assignment) >>= fun after => scanner.scan after rest := by
  cases assignment with
  | joined flag value =>
      rw [Assignment.arguments, List.cons_append, scan_long (Argument.ofText_joined flag value),
        longFlag_value, Level.take, stopWith_bind]
      rfl
  | apart flag value isWord =>
      rw [Assignment.arguments, List.cons_append, scan_long (Argument.ofText_flag flag),
        longFlag_alone, Level.take, stopWith_bind]
      cases level.settle with
      | error fault => rfl
      | ok settled => exact scan_awaited isWord rfl rest

theorem scan_assignments (level : Level) (assignments : List Assignment) (rest : List String) :
    scanner.scan level (assignments.flatMap Assignment.arguments ++ rest) =
      stopWith (assignments.foldlM Level.take level) >>= fun last => scanner.scan last rest := by
  induction assignments generalizing level with
  | nil => rfl
  | cons head tail inductionHypothesis =>
      rw [List.flatMap_cons, List.append_assoc, scan_assignment, List.foldlM_cons, stopWith_bind,
        bind_assoc]
      simp only [inductionHypothesis]

/-- What is behind the flags of a level that is read. -/
def Ends (scanner : Scanner γ) (last : Level) (rest : List String) (result : γ) : Prop :=
  (scanner.finish last = result ∧ ∃ closed, rest = closing closed) ∨
    ∃ word more, rest = word :: more ∧ scanner.word last word more = .ok result

/-- What is read is a row of assignments, and of a flag at the end for which there is no value. -/
theorem exists_assignments {level : Level} {arguments : List String} {result : γ}
    (succeeds : scanner.scan level arguments = .ok result) :
    ∃ (assignments : List Assignment) (last : Level) (rest : List String),
      level.owed ++ arguments = assignments.flatMap Assignment.arguments ++ (last.owed ++ rest) ∧
      scanner.Ends last rest result := by
  -- A flag without a value yet is owed to the row, in front of the arguments that are left.
  induction arguments generalizing level with
  | nil =>
      cases succeeds
      exact ⟨[], level, [], rfl, .inl ⟨rfl, false, rfl⟩⟩
  | cons argument arguments inductionHypothesis =>
      cases isForm : Argument.ofText argument with
      | separator =>
          obtain rfl := Argument.text_of_ofText isForm
          rw [scan.eq_def] at succeeds
          simp only [isForm] at succeeds
          cases arguments with
          | nil =>
              cases succeeds
              exact ⟨[], level, _, rfl, .inl ⟨rfl, true, rfl⟩⟩
          | cons stray more => cases succeeds
      | long name value =>
          rw [scan_long isForm] at succeeds
          obtain ⟨after, flagged, further⟩ := Fallible.bind_eq_ok_iff.mp succeeds
          obtain ⟨assignments, last, rest, isRow, ends⟩ := inductionHypothesis further
          obtain ⟨flag, rfl, owesNothing, given⟩ := owed_of_longFlag flagged
          have isText := Argument.text_of_ofText isForm
          rw [owesNothing, List.nil_append]
          cases value with
          | none =>
              rw [given] at isRow
              exact ⟨assignments, last, rest, isText ▸ isRow, ends⟩
          | some value =>
              rw [given, List.nil_append] at isRow
              exact ⟨.joined flag value :: assignments, last, rest,
                by rw [isText, isRow]; rfl, ends⟩
      | short letters =>
          rw [scan.eq_def] at succeeds
          simp only [isForm] at succeeds
          obtain ⟨after, reads, -⟩ := Fallible.bind_eq_ok_iff.mp succeeds
          exact absurd reads (shortFlags_ne_ok _ _ _ _)
      | word text =>
          obtain ⟨rfl, isWord⟩ := Argument.isWord_of_ofText isForm
          rcases level.isPending_or_owed with ⟨flag, isPending⟩ | owesNothing
          · rw [scan_awaited isWord isPending] at succeeds
            obtain ⟨assignments, last, rest, isRow, ends⟩ := inductionHypothesis succeeds
            refine ⟨.apart flag text isWord :: assignments, last, rest, ?_, ends⟩
            rw [Level.owed, isPending]
            exact congrArg (["--" ++ flag.name, text] ++ ·) isRow
          · rw [scan_word isWord owesNothing] at succeeds
            exact ⟨[], level, text :: arguments, rfl, .inr ⟨text, arguments, rfl, succeeds⟩⟩

theorem outer_word_name (last : Level) (command : Subcommand) (rest : List String) :
    outer.word last command.name rest = .ok (last, some (command, rest)) := by
  have isNoHelp : command.name ≠ "help" := by cases command <;> decide
  simp only [outer, if_neg isNoHelp, Subcommand.ofName?_name]

theorem ends_outer {last level : Level} {rest : List String}
    {target : Option (Subcommand × List String)} (ends : outer.Ends last rest (level, target)) :
    (last = level ∧ target = none ∧ ∃ closed, rest = closing closed) ∨
      last = level ∧ ∃ command behind, target = some (command, behind) ∧
        rest = command.name :: behind := by
  rcases ends with ⟨finishes, isClosing⟩ | ⟨word, more, rfl, succeeds⟩
  · cases finishes
    exact .inl ⟨rfl, rfl, isClosing⟩
  · simp only [outer] at succeeds
    split at succeeds
    · cases succeeds
    · split at succeeds
      · next command found =>
        cases succeeds
        exact .inr ⟨rfl, command, more, rfl,
          congrArg (· :: more) (Subcommand.name_of_ofName? found)⟩
      · cases succeeds

theorem ends_inner {command : Subcommand} {last level : Level} {rest : List String}
    (ends : (inner command).Ends last rest level) :
    last = level ∧ ∃ closed, rest = closing closed := by
  rcases ends with ends | ⟨word, more, _, impossible⟩
  · exact ends
  · cases impossible

end Scanner

/-! ### Command lines -/

/-- What a command line says. -/
structure Line where
  outer : List Assignment
  /-- The subcommand, and what is said behind it. -/
  inner : Option (Subcommand × List Assignment) := none
  /-- Whether a separator stands at the end. -/
  closed : Bool := false

namespace Line

/-- The subcommand, and the arguments behind it. -/
def behind (line : Line) : Option (Subcommand × List String) :=
  line.inner.map fun (command, assignments) =>
    (command, assignments.flatMap Assignment.arguments ++ closing line.closed)

/-- The arguments of a command line. -/
def arguments (line : Line) : List String :=
  line.outer.flatMap Assignment.arguments ++
    match line.behind with
    | none => closing line.closed
    | some (command, rest) => command.name :: rest

/-- A level on which assignments are made, and the environment stands in for the rest. -/
def level (environment : String → Option String) (assignments : List Assignment) :
    Except UsageFault Level :=
  assignments.foldlM Level.assign {} >>= Flag.all.foldlM (Level.inherit environment)

/-- What a command line asks for. -/
def invocation (environment : String → Option String) (line : Line) :
    Except UsageFault Invocation := do
  let outer ← level environment line.outer
  match line.inner with
  | none => return ⟨none, outer.settings⟩
  | some (command, assignments) => do
      return ⟨some command, outer.merge (← level environment assignments)⟩

variable {environment : String → Option String}

theorem finish_foldlM_take (assignments : List Assignment) :
    assignments.foldlM Level.take {} >>= Level.finish environment =
      level environment assignments := by
  calc assignments.foldlM Level.take {} >>= Level.finish environment
      = (assignments.foldlM Level.take {} >>= Level.settle) >>=
          Flag.all.foldlM (Level.inherit environment) := by
        rw [bind_assoc]
        rfl
    _ = level environment assignments := by
        rw [Level.settle_foldlM_take]
        rfl

theorem level_eq_ok_iff {assignments : List Assignment} {after : Level} :
    level environment assignments = .ok after ↔
      ∃ last, stopWith (assignments.foldlM Level.take {}) = .ok last ∧
        stopWith (last.finish environment) = .ok after := by
  rw [← finish_foldlM_take, Fallible.bind_eq_ok_iff]
  simp only [stopWith, Fallible.mapError_eq_ok_iff]

/-- The outer level is read up to the subcommand. -/
theorem readOuter_arguments (line : Line) :
    readOuter {} line.arguments =
      stopWith (line.outer.foldlM Level.take {}) >>= fun last => .ok (last, line.behind) := by
  rw [arguments, Scanner.readOuter_eq_scan, Scanner.scan_assignments]
  cases takes : line.outer.foldlM Level.take {} with
  | error fault => rfl
  | ok last =>
      show Scanner.outer.scan last _ = .ok (last, line.behind)
      cases line.behind with
      | none => exact Scanner.scan_closing last line.closed
      | some behind =>
          rw [Scanner.scan_word (Subcommand.isWord_name behind.1)
            (Level.owed_of_foldlM_take rfl takes)]
          exact Scanner.outer_word_name last behind.1 behind.2

theorem readInner_arguments (command : Subcommand) (assignments : List Assignment) (closed : Bool) :
    readInner command {} (assignments.flatMap Assignment.arguments ++ closing closed) =
      stopWith (assignments.foldlM Level.take {}) := by
  rw [Scanner.readInner_eq_scan, Scanner.scan_assignments]
  simp only [Scanner.scan_closing]
  exact bind_pure _

/-- A command line is read as what it says. -/
theorem read_arguments_eq_ok_iff {line : Line} {result : Invocation} :
    read environment line.arguments = .ok result ↔ line.invocation environment = .ok result := by
  rw [read, readOuter_arguments, bind_assoc, invocation]
  unfold behind
  -- The inner level is finished before the outer one, which only matters to what goes wrong.
  cases line.inner with
  | none =>
      simp only [Option.map_none, Fallible.bind_eq_ok_iff, level_eq_ok_iff, pure, Except.pure,
        Except.ok.injEq, exists_eq_left']
      constructor
      · rintro ⟨last, takes, after, finishes, isResult⟩
        exact ⟨after, ⟨last, takes, finishes⟩, isResult⟩
      · rintro ⟨after, ⟨last, takes, finishes⟩, isResult⟩
        exact ⟨last, takes, after, finishes, isResult⟩
  | some inner =>
      obtain ⟨command, inner⟩ := inner
      simp only [Option.map_some, Fallible.bind_eq_ok_iff, level_eq_ok_iff, pure, Except.pure,
        Except.ok.injEq, exists_eq_left', readInner_arguments]
      constructor
      · rintro ⟨outerLast, outerTakes, innerLast, innerTakes, innerAfter, innerFinishes,
          outerAfter, outerFinishes, isResult⟩
        exact ⟨outerAfter, ⟨outerLast, outerTakes, outerFinishes⟩,
          innerAfter, ⟨innerLast, innerTakes, innerFinishes⟩, isResult⟩
      · rintro ⟨outerAfter, ⟨outerLast, outerTakes, outerFinishes⟩,
          innerAfter, ⟨innerLast, innerTakes, innerFinishes⟩, isResult⟩
        exact ⟨outerLast, outerTakes, innerLast, innerTakes, innerAfter, innerFinishes,
          outerAfter, outerFinishes, isResult⟩

theorem owed_of_finish {last after : Level}
    (finishes : stopWith (last.finish environment) = .ok after) : last.owed = [] := by
  obtain ⟨settled, settles, -⟩ :=
    Fallible.bind_eq_ok_iff.mp (Fallible.mapError_eq_ok_iff.mp finishes)
  exact Level.owed_of_settle settles

/-- A command line that is understood says something. -/
theorem exists_line {arguments : List String} {result : Invocation}
    (reads : read environment arguments = .ok result) :
    ∃ line : Line, line.arguments = arguments := by
  obtain ⟨⟨outer, target⟩, readsOuter, further⟩ := Fallible.bind_eq_ok_iff.mp reads
  rw [Scanner.readOuter_eq_scan] at readsOuter
  obtain ⟨assignments, last, rest, isRow, ends⟩ := Scanner.exists_assignments readsOuter
  rcases Scanner.ends_outer ends with ⟨rfl, rfl, closed, rfl⟩ | ⟨rfl, command, behind, rfl, rfl⟩
  · obtain ⟨after, finishes, -⟩ := Fallible.bind_eq_ok_iff.mp further
    rw [owed_of_finish finishes] at isRow
    exact ⟨{ outer := assignments, closed }, isRow.symm⟩
  · obtain ⟨inner, readsInner, further⟩ := Fallible.bind_eq_ok_iff.mp further
    obtain ⟨innerAfter, innerFinishes, further⟩ := Fallible.bind_eq_ok_iff.mp further
    obtain ⟨outerAfter, outerFinishes, -⟩ := Fallible.bind_eq_ok_iff.mp further
    rw [Scanner.readInner_eq_scan] at readsInner
    obtain ⟨innerAssignments, innerLast, innerRest, isInnerRow, ends⟩ :=
      Scanner.exists_assignments readsInner
    obtain ⟨rfl, closed, rfl⟩ := Scanner.ends_inner ends
    rw [owed_of_finish innerFinishes] at isInnerRow
    have isBehind : behind = innerAssignments.flatMap Assignment.arguments ++ closing closed :=
      isInnerRow
    rw [owed_of_finish outerFinishes, isBehind] at isRow
    exact ⟨{ outer := assignments, inner := some (command, innerAssignments), closed },
      isRow.symm⟩

end Line

end AvailabilityGate.CommandLine
