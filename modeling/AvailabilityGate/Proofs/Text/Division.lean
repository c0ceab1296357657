import AvailabilityGate.Text.Blank
import AvailabilityGate.Text.Pieces
import Mathlib.Data.List.DropRight

/-!
Owns what the pieces of a text are, and what a text is without the blanks at its ends. Both are said
by where they stand in the text, without regard to how they are found.

Main statements: the pieces are the stretches without a separator that reach from one separator, or
an end of the text, to the next; a text is trimmed to the one stretch in it that has no blank at
its ends and nothing but blanks around it.
-/

namespace AvailabilityGate.Text

/-! ### Pieces -/

/-- The stretch has no separator in it, and wherever the text goes on there is one next to it. -/
def IsPiece (separator : Char) (text piece : List Char) : Prop :=
  separator ∉ piece ∧ ∃ before after, text = before ++ piece ++ after ∧
    (∀ c ∈ before.getLast?, c = separator) ∧ ∀ c ∈ after.head?, c = separator

variable {separator : Char} {text piece : List Char}

theorem pieces_eq_splitOn (separator : Char) (text : List Char) :
    pieces separator text = text.splitOn separator := by
  induction text with
  | nil => rw [pieces, List.splitOn_nil]
  | cons c rest inductionHypothesis =>
      rw [pieces, List.splitOn_cons_eq_if_modifyHead, ← inductionHypothesis]
      simp only [beq_iff_eq]
      split
      · rfl
      · cases found : pieces separator rest with
        | nil =>
            rw [inductionHypothesis] at found
            exact absurd found (List.splitOn_ne_nil separator rest)
        | cons piece more => rfl

theorem isPiece_whole (plain : separator ∉ text) : IsPiece separator text text :=
  ⟨plain, [], [], by simp, by simp, by simp⟩

/-- Behind a separator the pieces are those of what stands there. -/
theorem IsPiece.behind (isPiece : IsPiece separator text piece) (front : List Char) :
    IsPiece separator (front ++ separator :: text) piece := by
  obtain ⟨plain, before, after, rfl, ends, begins⟩ := isPiece
  refine ⟨plain, front ++ separator :: before, after, by simp, ?_, begins⟩
  cases before with
  | nil => simp
  | cons c rest => simpa [List.getLast?_append, List.getLast?_cons_cons] using ends

theorem isPiece_of_mem {separator : Char} {text piece : List Char}
    (among : piece ∈ text.splitOn separator) : IsPiece separator text piece := by
  by_cases separated : separator ∈ text
  · obtain ⟨front, rest, isText, plain⟩ := List.eq_append_cons_of_mem separated
    have shorter : rest.length < text.length := by
      rw [isText, List.length_append, List.length_cons]
      omega
    rw [isText, List.splitOn_append_cons_self_of_not_mem plain] at among
    rw [isText]
    rcases List.mem_cons.mp among with rfl | later
    · exact ⟨plain, [], separator :: rest, by simp, by simp, by simp⟩
    · exact (isPiece_of_mem later).behind front
  · rw [List.splitOn_eq_singleton separated] at among
    obtain rfl := List.mem_singleton.mp among
    exact isPiece_whole separated
termination_by text.length

theorem mem_of_isPiece (isPiece : IsPiece separator text piece) :
    piece ∈ text.splitOn separator := by
  obtain ⟨plain, before, after, rfl, ends, begins⟩ := isPiece
  -- What follows the piece is a separator and a text of its own.
  have first : piece ∈ (piece ++ after).splitOn separator := by
    cases after with
    | nil => simp [List.splitOn_eq_singleton plain]
    | cons c rest =>
        obtain rfl : c = separator := begins c rfl
        simp [List.splitOn_append_cons_self_of_not_mem plain]
  cases before using List.reverseRecOn with
  | nil => simpa using first
  | append_singleton front c =>
      obtain rfl : c = separator := ends c (by simp)
      have split : front ++ [c] ++ piece ++ after = front ++ c :: (piece ++ after) := by simp
      rw [split, List.splitOn_append_cons_self]
      exact List.mem_append_right _ first

theorem mem_pieces_iff : piece ∈ pieces separator text ↔ IsPiece separator text piece := by
  rw [pieces_eq_splitOn]
  exact ⟨isPiece_of_mem, mem_of_isPiece⟩

/-! ### Blanks at the ends -/

/-- The text does not begin or end with a blank. -/
def IsBare (text : List Char) : Prop :=
  (∀ c ∈ text.head?, isBlank c = false) ∧ ∀ c ∈ text.getLast?, isBlank c = false

/-- The core is bare, and around it the text is blank. -/
def IsCore (text core : List Char) : Prop :=
  IsBare core ∧ ∃ front back, text = front ++ core ++ back ∧
    (∀ c ∈ front, isBlank c = true) ∧ ∀ c ∈ back, isBlank c = true

variable {core : List Char}

theorem trimChars_eq_rdropWhile (text : List Char) :
    trimChars text = (text.dropWhile isBlank).rdropWhile isBlank :=
  rfl

theorem isCore_trimChars (text : List Char) : IsCore text (trimChars text) := by
  have atFront := List.takeWhile_append_dropWhile (p := isBlank) (l := text)
  have atBack := List.rdropWhile_append_rtakeWhile (p := isBlank) (l := text.dropWhile isBlank)
  rw [← trimChars_eq_rdropWhile] at atBack
  refine ⟨⟨fun c isFirst => ?begins, fun c isLast => ?ends⟩, text.takeWhile isBlank,
    (text.dropWhile isBlank).rtakeWhile isBlank, ?whole, ?front, ?back⟩
  case begins =>
    have first : (text.dropWhile isBlank).head? = some c := by
      rw [← atBack, List.head?_append, isFirst]
      rfl
    have stopped := List.head?_dropWhile_not isBlank text
    rw [first] at stopped
    exact stopped
  case ends =>
    obtain ⟨nonempty, rfl⟩ := List.mem_getLast?_eq_getLast isLast
    exact Bool.not_eq_true _ ▸ List.rdropWhile_last_not isBlank _ nonempty
  case whole => rw [List.append_assoc, atBack, atFront]
  case front => exact fun c among => List.mem_takeWhile_imp among
  case back => exact fun c among => List.mem_rtakeWhile_imp among

theorem dropWhile_eq_self {text : List Char} (begins : ∀ c ∈ text.head?, isBlank c = false) :
    text.dropWhile isBlank = text := by
  cases text with
  | nil => rfl
  | cons c rest => exact List.dropWhile_cons_of_neg (by simp [begins c rfl])

theorem rdropWhile_append {core back : List Char} (ends : ∀ c ∈ core.getLast?, isBlank c = false)
    (blank : ∀ c ∈ back, isBlank c = true) : (core ++ back).rdropWhile isBlank = core := by
  have begins : ∀ c ∈ core.reverse.head?, isBlank c = false := by
    rwa [List.head?_reverse]
  rw [List.rdropWhile, List.reverse_append, List.dropWhile_append_of_pos (by simpa using blank),
    dropWhile_eq_self begins, List.reverse_reverse]

theorem IsCore.trimChars_eq (isCore : IsCore text core) : trimChars text = core := by
  obtain ⟨⟨begins, ends⟩, front, back, rfl, blankFront, blankBack⟩ := isCore
  rw [trimChars_eq_rdropWhile, List.append_assoc, List.dropWhile_append_of_pos blankFront]
  cases core with
  | nil =>
      have nothing : back.dropWhile isBlank = [] := List.dropWhile_eq_nil_iff.mpr blankBack
      rw [List.nil_append, nothing]
      rfl
  | cons c rest =>
      have kept : (c :: rest ++ back).dropWhile isBlank = c :: rest ++ back :=
        dropWhile_eq_self begins
      rw [kept, rdropWhile_append ends blankBack]

/-- A text that is not trimmed to nothing is not blank. -/
theorem IsCore.exists_not_blank (isCore : IsCore text core) (nonempty : core ≠ []) :
    ∃ c ∈ text, isBlank c = false := by
  obtain ⟨⟨begins, -⟩, front, back, rfl, -, -⟩ := isCore
  obtain ⟨c, rest, rfl⟩ := List.exists_cons_of_ne_nil nonempty
  exact ⟨c, by simp, begins c rfl⟩

theorem trimChars_eq_iff : trimChars text = core ↔ IsCore text core := by
  constructor
  · rintro rfl
    exact isCore_trimChars text
  · exact IsCore.trimChars_eq

theorem trim_eq_iff {text core : String} :
    trim text = core ↔ IsCore text.toList core.toList := by
  rw [trim, ← trimChars_eq_iff]
  constructor
  · rintro rfl
    rw [String.toList_ofList]
  · intro same
    rw [same, String.ofList_toList]

end AvailabilityGate.Text
