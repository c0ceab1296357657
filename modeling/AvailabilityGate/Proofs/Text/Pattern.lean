import AvailabilityGate.Text.Pattern

/-!
Owns the language of regular expressions: which texts an expression stands for, said by rules, and
that these are the texts that are found to fit it.

Main statement: what may come behind a character stands for the rest of the texts that begin with
it, and so a text is found to fit if and only if the expression stands for it.
-/

namespace AvailabilityGate.Text.Pattern

/-! ### Ranges of characters -/

theorem within_nil {c : Char} : within [] c = false :=
  rfl

theorem within_cons {range : Char × Char} {ranges : List (Char × Char)} {c : Char} :
    within (range :: ranges) c = (decide (range.1 ≤ c) && decide (c ≤ range.2) || within ranges c) :=
  rfl

theorem within_append {front back : List (Char × Char)} {c : Char} :
    within (front ++ back) c = (within front c || within back c) :=
  List.any_append

/-- A range with one character. -/
theorem between_iff {bound c : Char} : bound ≤ c ∧ c ≤ bound ↔ c = bound := by
  constructor
  · rintro ⟨notBelow, notAbove⟩
    exact Char.le_antisymm notAbove notBelow
  · rintro rfl
    exact ⟨Char.le_refl c, Char.le_refl c⟩

theorem within_single_iff {bound c : Char} : within [(bound, bound)] c = true ↔ c = bound := by
  rw [within_cons, within_nil, Bool.or_false, Bool.and_eq_true, decide_eq_true_eq,
    decide_eq_true_eq, between_iff]

/-! ### The texts of an expression -/

/-- The texts that an expression stands for. -/
inductive Denotes : Pattern → List Char → Prop where
  | empty : Denotes .empty []
  | oneOf {ranges c} (member : within ranges c = true) : Denotes (.oneOf ranges) [c]
  | seq {first second front back} :
      Denotes first front → Denotes second back → Denotes (.seq first second) (front ++ back)
  | skip {body} : Denotes (.optional body) []
  | take {body text} : Denotes body text → Denotes (.optional body) text
  | stop {body} : Denotes (.star body) []
  | more {body front back} :
      Denotes body front → Denotes (.star body) back → Denotes (.star body) (front ++ back)

variable {pattern first second body : Pattern} {ranges : List (Char × Char)} {text : List Char}

/-! ### One constructor at a time -/

theorem denotes_empty_iff : Denotes .empty text ↔ text = [] := by
  constructor
  · rintro ⟨⟩
    rfl
  · rintro rfl
    exact .empty

theorem denotes_oneOf_iff :
    Denotes (.oneOf ranges) text ↔ ∃ c, text = [c] ∧ within ranges c = true := by
  constructor
  · rintro (_ | member)
    exact ⟨_, rfl, member⟩
  · rintro ⟨c, rfl, member⟩
    exact .oneOf member

theorem denotes_seq_iff :
    Denotes (.seq first second) text ↔
      ∃ front back, text = front ++ back ∧ Denotes first front ∧ Denotes second back := by
  constructor
  · rintro (_ | _ | ⟨inFirst, inSecond⟩)
    exact ⟨_, _, rfl, inFirst, inSecond⟩
  · rintro ⟨front, back, rfl, inFirst, inSecond⟩
    exact .seq inFirst inSecond

theorem denotes_optional_iff : Denotes (.optional body) text ↔ text = [] ∨ Denotes body text := by
  constructor
  · intro denotes
    cases denotes with
    | skip => exact .inl rfl
    | take inBody => exact .inr inBody
  · rintro (rfl | inBody)
    · exact .skip
    · exact .take inBody

/-! ### The first character -/

section FirstCharacter

variable {c : Char} {rest : List Char}

theorem denotes_oneOf_cons_iff :
    Denotes (.oneOf ranges) (c :: rest) ↔ within ranges c = true ∧ rest = [] := by
  rw [denotes_oneOf_iff]
  constructor
  · rintro ⟨d, single, member⟩
    obtain ⟨rfl, rfl⟩ := List.cons.inj single
    exact ⟨member, rfl⟩
  · rintro ⟨member, rfl⟩
    exact ⟨c, rfl, member⟩

/-- The first character belongs to the first part, or that part is empty. -/
theorem denotes_seq_cons_iff :
    Denotes (.seq first second) (c :: rest) ↔
      (∃ front back, rest = front ++ back ∧ Denotes first (c :: front) ∧ Denotes second back) ∨
        (Denotes first [] ∧ Denotes second (c :: rest)) := by
  rw [denotes_seq_iff]
  constructor
  · rintro ⟨front, back, splits, inFirst, inSecond⟩
    rcases List.cons_eq_append_iff.mp splits with ⟨rfl, rfl⟩ | ⟨front, rfl, rfl⟩
    · exact .inr ⟨inFirst, inSecond⟩
    · exact .inl ⟨front, back, rfl, inFirst, inSecond⟩
  · rintro (⟨front, back, rfl, inFirst, inSecond⟩ | ⟨inFirst, inSecond⟩)
    · exact ⟨c :: front, back, rfl, inFirst, inSecond⟩
    · exact ⟨[], c :: rest, rfl, inFirst, inSecond⟩

/-- The first round that is not empty begins with the first character. -/
theorem denotes_star_cons_iff :
    Denotes (.star body) (c :: rest) ↔
      ∃ front back, rest = front ++ back ∧ Denotes body (c :: front) ∧
        Denotes (.star body) back := by
  constructor
  · intro denotes
    generalize starIs : Pattern.star body = star at denotes
    generalize textIs : c :: rest = text at denotes
    -- Empty rounds are passed over by the induction.
    induction denotes with
    | @more _ front back inBody inStar _ inductionHypothesis =>
        cases starIs
        rcases List.cons_eq_append_iff.mp textIs with ⟨rfl, rfl⟩ | ⟨front, rfl, rfl⟩
        · exact inductionHypothesis rfl rfl
        · exact ⟨front, back, rfl, inBody, inStar⟩
    | stop => cases textIs
    | _ => cases starIs
  · rintro ⟨front, back, rfl, inBody, inStar⟩
    exact .more inBody inStar

end FirstCharacter

/-! ### Reading from left to right -/

theorem skippable_iff : pattern.skippable = true ↔ Denotes pattern [] := by
  induction pattern with
  | empty => simp [skippable, denotes_empty_iff]
  | oneOf ranges => simp [skippable, denotes_oneOf_iff]
  | seq first second firstHypothesis secondHypothesis =>
      rw [skippable, Bool.and_eq_true, firstHypothesis, secondHypothesis, denotes_seq_iff]
      constructor
      · rintro ⟨inFirst, inSecond⟩
        exact ⟨[], [], rfl, inFirst, inSecond⟩
      · rintro ⟨front, back, nothing, inFirst, inSecond⟩
        obtain ⟨rfl, rfl⟩ := List.append_eq_nil_iff.mp nothing.symm
        exact ⟨inFirst, inSecond⟩
  | optional body _ => simp [skippable, Denotes.skip]
  | star body _ => simp [skippable, Denotes.stop]

theorem exists_map_seq_iff {patterns : List Pattern} :
    (∃ next ∈ patterns.map (.seq · second), Denotes next text) ↔
      ∃ front back, text = front ++ back ∧ (∃ next ∈ patterns, Denotes next front) ∧
        Denotes second back := by
  constructor
  · rintro ⟨next, member, denotes⟩
    obtain ⟨tried, triedMember, rfl⟩ := List.mem_map.mp member
    obtain ⟨front, back, splits, inTried, inSecond⟩ := denotes_seq_iff.mp denotes
    exact ⟨front, back, splits, ⟨tried, triedMember, inTried⟩, inSecond⟩
  · rintro ⟨front, back, rfl, ⟨next, member, inNext⟩, inSecond⟩
    exact ⟨_, List.mem_map_of_mem member, .seq inNext inSecond⟩

/-- What may come behind a character stands for the rests of the texts that begin with it. -/
theorem exists_after_iff {c : Char} {rest : List Char} :
    (∃ next ∈ pattern.after c, Denotes next rest) ↔ Denotes pattern (c :: rest) := by
  induction pattern generalizing rest with
  | empty => simp [after, denotes_empty_iff]
  | oneOf ranges =>
      rw [denotes_oneOf_cons_iff, after]
      split
      · next member => simp [member, denotes_empty_iff]
      · next notMember => simp [notMember]
  | seq first second firstHypothesis secondHypothesis =>
      simp only [after, List.mem_append, or_and_right, exists_or]
      rw [exists_map_seq_iff, denotes_seq_cons_iff, ← skippable_iff]
      simp only [firstHypothesis]
      refine or_congr_right ?_
      split
      · next mayBeEmpty => simp [mayBeEmpty, secondHypothesis]
      · next notEmpty => simp [notEmpty]
  | optional body inductionHypothesis =>
      rw [after, inductionHypothesis, denotes_optional_iff]
      simp
  | star body inductionHypothesis =>
      simp only [after, exists_map_seq_iff, inductionHypothesis, denotes_star_cons_iff]

theorem exists_advance_iff {patterns : List Pattern} {c : Char} {rest : List Char} :
    (∃ next ∈ advance patterns c, Denotes next rest) ↔
      ∃ pattern ∈ patterns, Denotes pattern (c :: rest) := by
  simp only [advance, List.mem_flatMap, ← exists_after_iff]
  grind

/-- A text fits if and only if the expression stands for it. -/
theorem fits_iff : pattern.fits text = true ↔ Denotes pattern text := by
  have reads : ∀ patterns : List Pattern,
      (text.foldl advance patterns).any skippable = true ↔
        ∃ pattern ∈ patterns, Denotes pattern text := by
    induction text with
    | nil => intro patterns; simp [skippable_iff]
    | cons c rest inductionHypothesis =>
        intro patterns
        rw [List.foldl_cons, inductionHypothesis, exists_advance_iff]
  rw [fits, reads]
  simp

/-! ### Repetitions -/

theorem denotes_star_iff :
    Denotes (.star body) text ↔
      ∃ rounds : List (List Char), (∀ round ∈ rounds, Denotes body round) ∧
        text = rounds.flatten := by
  constructor
  · intro denotes
    generalize starIs : Pattern.star body = star at denotes
    induction denotes with
    | stop => exact ⟨[], by simp, rfl⟩
    | @more _ front back inBody _ _ inductionHypothesis =>
        cases starIs
        obtain ⟨rounds, inRounds, rfl⟩ := inductionHypothesis rfl
        exact ⟨front :: rounds, List.forall_mem_cons.mpr ⟨inBody, inRounds⟩, rfl⟩
    | _ => cases starIs
  · rintro ⟨rounds, inRounds, rfl⟩
    induction rounds with
    | nil => exact .stop
    | cons round more inductionHypothesis =>
        obtain ⟨inRound, inMore⟩ := List.forall_mem_cons.mp inRounds
        exact .more inRound (inductionHypothesis inMore)

/-- A text of any length over a class of characters. -/
theorem denotes_star_oneOf_iff :
    Denotes (.star (.oneOf ranges)) text ↔ ∀ c ∈ text, within ranges c = true := by
  induction text with
  | nil => simp [Denotes.stop]
  | cons c rest inductionHypothesis =>
      rw [denotes_star_cons_iff, List.forall_mem_cons, ← inductionHypothesis]
      simp only [denotes_oneOf_cons_iff]
      constructor
      · rintro ⟨front, back, rfl, ⟨member, rfl⟩, inStar⟩
        exact ⟨member, inStar⟩
      · rintro ⟨member, inStar⟩
        exact ⟨[], rest, rfl, ⟨member, rfl⟩, inStar⟩

section Separated

variable {separator : Char}

theorem denotes_behind_iff :
    Denotes (.seq (.oneOf [(separator, separator)]) body) text ↔
      ∃ part, text = separator :: part ∧ Denotes body part := by
  rw [denotes_seq_iff]
  constructor
  · rintro ⟨front, part, rfl, inFront, inBody⟩
    obtain ⟨c, rfl, member⟩ := denotes_oneOf_iff.mp inFront
    obtain rfl := within_single_iff.mp member
    exact ⟨part, rfl, inBody⟩
  · rintro ⟨part, rfl, inBody⟩
    exact ⟨[separator], part, rfl, .oneOf (within_single_iff.mpr rfl), inBody⟩

theorem intercalate_cons (part : List Char) (more : List (List Char)) :
    [separator].intercalate (part :: more) = part ++ (more.map (separator :: ·)).flatten := by
  induction more generalizing part with
  | nil => simp
  | cons next more inductionHypothesis => simp [inductionHypothesis]

/-- One part, or several with a separator between each two. -/
theorem denotes_separated_iff :
    Denotes (.seq body (.star (.seq (.oneOf [(separator, separator)]) body))) text ↔
      ∃ parts, parts ≠ [] ∧ (∀ part ∈ parts, Denotes body part) ∧
        text = [separator].intercalate parts := by
  rw [denotes_seq_iff]
  constructor
  · rintro ⟨part, back, rfl, inBody, inStar⟩
    obtain ⟨rounds, inRounds, rfl⟩ := denotes_star_iff.mp inStar
    refine ⟨part :: rounds.map List.tail, List.cons_ne_nil _ _, ?_, ?_⟩
    · rw [List.forall_mem_cons, List.forall_mem_map]
      refine ⟨inBody, fun round member => ?_⟩
      obtain ⟨rest, rfl, inRest⟩ := denotes_behind_iff.mp (inRounds round member)
      exact inRest
    · have separated : ∀ round ∈ rounds, separator :: round.tail = round := by
        intro round member
        obtain ⟨rest, rfl, _⟩ := denotes_behind_iff.mp (inRounds round member)
        rfl
      rw [intercalate_cons, List.map_map]
      exact congrArg (part ++ List.flatten ·)
        ((List.map_congr_left separated).trans (List.map_id rounds)).symm
  · rintro ⟨parts, nonempty, inParts, rfl⟩
    obtain ⟨part, more, rfl⟩ := List.exists_cons_of_ne_nil nonempty
    obtain ⟨inPart, inMore⟩ := List.forall_mem_cons.mp inParts
    refine ⟨part, _, intercalate_cons part more, inPart, denotes_star_iff.mpr ⟨_, ?_, rfl⟩⟩
    rw [List.forall_mem_map]
    exact fun next member => denotes_behind_iff.mpr ⟨next, rfl, inMore next member⟩

end Separated

end AvailabilityGate.Text.Pattern
