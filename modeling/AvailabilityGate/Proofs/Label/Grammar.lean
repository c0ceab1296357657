import AvailabilityGate.Label.Syntax
import AvailabilityGate.Proofs.Fallible
import AvailabilityGate.Proofs.Text.Pattern
import AvailabilityGate.Text.Blank
import Mathlib

/-!
Owns the grammar of label keys and label values, said of the positions of a text: which characters
it may hold, how it begins and ends, how it is divided, and how long it is.

Main statement: the checks, which go by regular expressions and by the first slash, accept exactly
the keys and the values of the grammar.
-/

namespace AvailabilityGate.Label

open Fallible
open Text (Pattern)
open Text.Pattern

/-! ### The grammar -/

/-- A text that is not empty, over the inner characters, with edge characters at both ends. -/
structure Framed (edge inner : Char → Prop) (text : List Char) : Prop where
  characters : ∀ c ∈ text, inner c
  first : ∃ c ∈ text.head?, edge c
  last : ∃ c ∈ text.getLast?, edge c

/-- A letter or a digit of ASCII. -/
def IsNameEdge (c : Char) : Prop :=
  c.isAlphanum = true

def IsNameCharacter (c : Char) : Prop :=
  IsNameEdge c ∨ c ∈ ['-', '_', '.']

structure IsName (text : String) : Prop where
  size : 1 ≤ text.utf8ByteSize ∧ text.utf8ByteSize ≤ 63
  framed : Framed IsNameEdge IsNameCharacter text.toList

/-- A lowercase letter or a digit of ASCII. -/
def IsDnsEdge (c : Char) : Prop :=
  c.isLower = true ∨ c.isDigit = true

def IsDnsCharacter (c : Char) : Prop :=
  IsDnsEdge c ∨ c = '-'

structure IsDnsName (text : String) : Prop where
  size : 1 ≤ text.utf8ByteSize ∧ text.utf8ByteSize ≤ 253
  divided : ∃ parts : List String, parts ≠ [] ∧
    (∀ part ∈ parts, Framed IsDnsEdge IsDnsCharacter part.toList) ∧
      text = ".".intercalate parts

def IsKey (key : String) : Prop :=
  IsName key ∨ ∃ domain name, IsDnsName domain ∧ IsName name ∧ key = domain ++ "/" ++ name

def IsValue (value : String) : Prop :=
  value = "" ∨ IsName value

/-- Two slashes, a character beyond ASCII, or a blank; line breaks are blanks. -/
def Foreign (text : String) : Prop :=
  2 ≤ text.toList.count '/' ∨ ∃ c ∈ text.toList, 128 ≤ c.toNat ∨ Text.isBlank c = true

/-! ### Classes of characters -/

theorem within_letterOrDigit_iff {c : Char} : within letterOrDigit c = true ↔ IsNameEdge c := by
  simp [within, letterOrDigit, IsNameEdge, Char.isAlphanum, Char.isAlpha, Char.isUpper,
    Char.isLower, Char.isDigit, Char.le_def, or_assoc]

theorem within_lowercaseOrDigit_iff {c : Char} :
    within lowercaseOrDigit c = true ↔ IsDnsEdge c := by
  simp [within, lowercaseOrDigit, IsDnsEdge, Char.isLower, Char.isDigit, Char.le_def]

theorem within_nameCharacter_iff {c : Char} :
    within (('-', '-') :: letterOrDigit ++ [('_', '_'), ('.', '.')]) c = true ↔
      IsNameCharacter c := by
  rw [IsNameCharacter, ← within_letterOrDigit_iff]
  simp only [List.cons_append, within_cons, within_append, within_nil, Bool.or_eq_true,
    Bool.and_eq_true, decide_eq_true_eq, between_iff]
  grind

theorem within_dnsCharacter_iff {c : Char} :
    within (('-', '-') :: lowercaseOrDigit) c = true ↔ IsDnsCharacter c := by
  rw [IsDnsCharacter, ← within_lowercaseOrDigit_iff]
  simp only [within_cons, Bool.or_eq_true, Bool.and_eq_true, decide_eq_true_eq,
    between_iff]
  grind

/-! ### Framed texts -/

section Frames

variable {text : List Char}

/-- A framed text is one edge character, or two with inner ones between them. -/
theorem framed_iff {edge inner : Char → Prop} (edgeInner : ∀ c, edge c → inner c) :
    Framed edge inner text ↔
      (∃ c, text = [c] ∧ edge c) ∨
        ∃ c middle d, text = c :: (middle ++ [d]) ∧ edge c ∧ (∀ m ∈ middle, inner m) ∧ edge d := by
  constructor
  · rintro ⟨characters, ⟨c, isFirst, first⟩, ⟨d, isLast, last⟩⟩
    obtain ⟨rest, rfl⟩ := List.head?_eq_some_iff.mp isFirst
    rcases List.eq_nil_or_concat rest with rfl | ⟨middle, lastOne, rfl⟩
    · exact .inl ⟨c, rfl, first⟩
    · rw [List.concat_eq_append] at isLast characters ⊢
      rw [← List.cons_append, List.getLast?_concat] at isLast
      cases isLast
      refine .inr ⟨c, middle, d, rfl, first, fun m member => ?_, last⟩
      exact characters m (by simp [member])
  · rintro (⟨c, rfl, isEdge⟩ | ⟨c, middle, d, rfl, first, between, last⟩)
    · exact ⟨by simpa using edgeInner c isEdge, ⟨c, rfl, isEdge⟩, ⟨c, rfl, isEdge⟩⟩
    · rw [← List.cons_append]
      refine ⟨?_, ⟨c, rfl, first⟩, ⟨d, List.getLast?_concat, last⟩⟩
      rw [List.forall_mem_append, List.forall_mem_cons, List.forall_mem_singleton]
      exact ⟨⟨edgeInner c first, between⟩, edgeInner d last⟩

variable {edges inners : List (Char × Char)}

/-- An edge character, and before it possibly another one with inner ones behind it. -/
theorem denotes_optionalFront_iff (edgeInner : ∀ c, within edges c = true → within inners c = true) :
    Denotes (.seq (.optional (.seq (.oneOf edges) (.star (.oneOf inners)))) (.oneOf edges)) text ↔
      Framed (within edges · = true) (within inners · = true) text := by
  rw [framed_iff edgeInner, denotes_seq_iff]
  simp only [denotes_optional_iff, denotes_seq_iff, denotes_oneOf_iff, denotes_star_oneOf_iff]
  constructor
  · rintro ⟨front, _, rfl, beforeLast, d, rfl, last⟩
    rcases beforeLast with rfl | ⟨_, middle, rfl, ⟨c, rfl, first⟩, between⟩
    · exact .inl ⟨d, rfl, last⟩
    · exact .inr ⟨c, middle, d, rfl, first, between, last⟩
  · rintro (⟨c, rfl, isEdge⟩ | ⟨c, middle, d, rfl, first, between, last⟩)
    · exact ⟨[], [c], rfl, .inl rfl, c, rfl, isEdge⟩
    · exact ⟨c :: middle, [d], rfl, .inr ⟨[c], middle, rfl, ⟨c, rfl, first⟩, between⟩, d, rfl, last⟩

/-- An edge character, and behind it possibly inner ones and another edge character. -/
theorem denotes_optionalBack_iff (edgeInner : ∀ c, within edges c = true → within inners c = true) :
    Denotes (.seq (.oneOf edges) (.optional (.seq (.star (.oneOf inners)) (.oneOf edges)))) text ↔
      Framed (within edges · = true) (within inners · = true) text := by
  rw [framed_iff edgeInner, denotes_seq_iff]
  simp only [denotes_optional_iff, denotes_seq_iff, denotes_oneOf_iff, denotes_star_oneOf_iff]
  constructor
  · rintro ⟨_, back, rfl, ⟨c, rfl, first⟩, behindFirst⟩
    rcases behindFirst with rfl | ⟨middle, _, rfl, between, d, rfl, last⟩
    · exact .inl ⟨c, rfl, first⟩
    · exact .inr ⟨c, middle, d, rfl, first, between, last⟩
  · rintro (⟨c, rfl, isEdge⟩ | ⟨c, middle, d, rfl, first, between, last⟩)
    · exact ⟨[c], [], rfl, ⟨c, rfl, isEdge⟩, .inl rfl⟩
    · exact ⟨[c], middle ++ [d], rfl, ⟨c, rfl, first⟩, .inr ⟨middle, [d], rfl, between, d, rfl, last⟩⟩

theorem Framed.ne_nil {edge inner : Char → Prop} (framed : Framed edge inner text) : text ≠ [] := by
  rintro rfl
  obtain ⟨c, isFirst, _⟩ := framed.first
  cases isFirst

end Frames

theorem namePattern_fits_iff {text : List Char} :
    namePattern.fits text = true ↔ Framed IsNameEdge IsNameCharacter text := by
  have edgeInner : ∀ c, within letterOrDigit c = true →
      within (('-', '-') :: letterOrDigit ++ [('_', '_'), ('.', '.')]) c = true := by
    intro c isEdge
    exact within_nameCharacter_iff.mpr (.inl (within_letterOrDigit_iff.mp isEdge))
  rw [fits_iff, namePattern, denotes_optionalFront_iff edgeInner]
  simp only [within_letterOrDigit_iff, within_nameCharacter_iff]

theorem dnsLabelPattern_denotes_iff {text : List Char} :
    Denotes dnsLabelPattern text ↔ Framed IsDnsEdge IsDnsCharacter text := by
  have edgeInner : ∀ c, within lowercaseOrDigit c = true →
      within (('-', '-') :: lowercaseOrDigit) c = true := by
    intro c isEdge
    exact within_dnsCharacter_iff.mpr (.inl (within_lowercaseOrDigit_iff.mp isEdge))
  rw [dnsLabelPattern, denotes_optionalBack_iff edgeInner]
  simp only [within_lowercaseOrDigit_iff, within_dnsCharacter_iff]

theorem dnsNamePattern_fits_iff {text : String} :
    dnsNamePattern.fits text.toList = true ↔
      ∃ parts : List String, parts ≠ [] ∧
        (∀ part ∈ parts, Framed IsDnsEdge IsDnsCharacter part.toList) ∧
          text = ".".intercalate parts := by
  rw [fits_iff, dnsNamePattern, denotes_separated_iff]
  constructor
  · rintro ⟨parts, nonempty, framed, divides⟩
    refine ⟨parts.map String.ofList, by simpa using nonempty, ?_, ?_⟩
    · rw [List.forall_mem_map]
      intro part member
      rw [String.toList_ofList]
      exact dnsLabelPattern_denotes_iff.mp (framed part member)
    · rw [← String.toList_inj, divides, String.toList_intercalate, List.map_map]
      simp
  · rintro ⟨parts, nonempty, framed, rfl⟩
    refine ⟨parts.map String.toList, by simpa using nonempty, ?_, String.toList_intercalate⟩
    rw [List.forall_mem_map]
    exact fun part member => dnsLabelPattern_denotes_iff.mpr (framed part member)

/-! ### The checks -/

theorem one_le_utf8ByteSize_iff {text : String} : 1 ≤ text.utf8ByteSize ↔ text.toList ≠ [] := by
  rw [Nat.one_le_iff_ne_zero, Ne, Ne, String.utf8ByteSize_eq_zero_iff, String.toList_eq_nil_iff]

theorem checkName_eq_ok_iff {text : String} : checkName text.toList = .ok () ↔ IsName text := by
  rw [checkName, ite_error_eq_ok_iff, ite_error_eq_ok_iff, ite_ok_eq_ok_iff,
    Text.byteLength_toList, Nat.not_lt, namePattern_fits_iff, ← Ne, ← one_le_utf8ByteSize_iff]
  constructor
  · rintro ⟨nonempty, short, framed⟩
    exact ⟨⟨nonempty, short⟩, framed⟩
  · rintro ⟨⟨nonempty, short⟩, framed⟩
    exact ⟨nonempty, short, framed⟩

theorem checkPrefix_eq_ok_iff {text : String} :
    checkPrefix text.toList = .ok () ↔ IsDnsName text := by
  rw [checkPrefix, ite_error_eq_ok_iff, ite_error_eq_ok_iff, ite_ok_eq_ok_iff,
    Text.byteLength_toList, Nat.not_lt, dnsNamePattern_fits_iff, ← Ne, ← one_le_utf8ByteSize_iff]
  constructor
  · rintro ⟨nonempty, short, divided⟩
    exact ⟨⟨nonempty, short⟩, divided⟩
  · rintro ⟨⟨nonempty, short⟩, divided⟩
    exact ⟨nonempty, short, divided⟩

theorem checkValue_eq_ok_iff {value : String} : checkValue value = .ok () ↔ IsValue value := by
  rw [checkValue, ite_error_eq_ok_iff, ite_ok_eq_ok_iff, Text.byteLength_toList, Nat.not_lt,
    fits_iff, valuePattern, denotes_optional_iff, ← fits_iff, namePattern_fits_iff,
    String.toList_eq_nil_iff]
  constructor
  · rintro ⟨short, rfl | framed⟩
    · exact .inl rfl
    · exact .inr ⟨⟨one_le_utf8ByteSize_iff.mpr framed.ne_nil, short⟩, framed⟩
  · rintro (rfl | ⟨⟨_, short⟩, framed⟩)
    · exact ⟨Nat.zero_le _, .inl rfl⟩
    · exact ⟨short, .inr framed⟩

/-! ### The division of a key -/

theorem splitKey_of_not_mem {key : List Char} (whole : '/' ∉ key) : splitKey key = (none, key) := by
  have nothing : key.dropWhile (· ≠ '/') = [] := by
    rw [List.dropWhile_eq_nil_iff]
    intro c member
    exact decide_eq_true fun isSlash => whole (isSlash ▸ member)
  rw [splitKey, nothing]

theorem splitKey_append {front name : List Char} (whole : '/' ∉ front) :
    splitKey (front ++ '/' :: name) = (some front, name) := by
  have passesOver : ∀ c ∈ front, decide (c ≠ '/') = true := by
    intro c member
    exact decide_eq_true fun isSlash => whole (isSlash ▸ member)
  have behind : (front ++ '/' :: name).dropWhile (· ≠ '/') = '/' :: name := by
    rw [List.dropWhile_append_of_pos passesOver]
    rfl
  have before : (front ++ '/' :: name).takeWhile (· ≠ '/') = front := by
    rw [List.takeWhile_append_of_pos passesOver]
    simp
  rw [splitKey, behind, before]

/-! ### The characters of keys -/

theorem IsDnsCharacter.isNameCharacter {c : Char} (isDns : IsDnsCharacter c) :
    IsNameCharacter c := by
  rcases isDns with (isLower | isDigit) | rfl
  · exact .inl (by simp [IsNameEdge, Char.isAlphanum, Char.isAlpha, isLower])
  · exact .inl (by simp [IsNameEdge, Char.isAlphanum, isDigit])
  · exact .inr (by simp)

theorem IsDnsName.isNameCharacter {text : String} (isDns : IsDnsName text) :
    ∀ c ∈ text.toList, IsNameCharacter c := by
  obtain ⟨parts, nonempty, framed, rfl⟩ := isDns.divided
  obtain ⟨part, more, rfl⟩ := List.exists_cons_of_ne_nil nonempty
  have inPart : ∀ part' ∈ part :: more, ∀ c ∈ part'.toList, IsNameCharacter c :=
    fun part' member c inside => ((framed part' member).characters c inside).isNameCharacter
  obtain ⟨inFirst, inMore⟩ := List.forall_mem_cons.mp inPart
  have atDot : IsNameCharacter '.' := .inr (by simp)
  rw [String.toList_intercalate]
  change ∀ c ∈ ['.'].intercalate (part.toList :: more.map String.toList), IsNameCharacter c
  rw [intercalate_cons, List.forall_mem_append]
  refine ⟨inFirst, fun c member => ?_⟩
  simp only [List.mem_flatten, List.mem_map, List.map_map] at member
  obtain ⟨_, ⟨next, isNext, rfl⟩, inside⟩ := member
  rcases List.mem_cons.mp inside with rfl | insideNext
  · exact atDot
  · exact inMore next isNext c insideNext

theorem IsNameCharacter.plain {c : Char} (isName : IsNameCharacter c) :
    c.toNat < 128 ∧ Text.isBlank c = false ∧ c ≠ '/' := by
  rcases isName with isEdge | isSign
  · have ranges : ((65 ≤ c.toNat ∧ c.toNat ≤ 90) ∨ (97 ≤ c.toNat ∧ c.toNat ≤ 122)) ∨
        (48 ≤ c.toNat ∧ c.toNat ≤ 57) := by
      simpa [IsNameEdge, Char.isAlphanum, Char.isAlpha, Char.isUpper, Char.isLower, Char.isDigit,
        UInt32.le_iff_toNat_le] using isEdge
    refine ⟨by omega, ?_, ?_⟩
    · simp only [Text.isBlank, Bool.or_eq_false_iff, Bool.and_eq_false_imp, decide_eq_true_eq,
        decide_eq_false_iff_not, not_le, beq_eq_false_iff_ne, ne_eq]
      omega
    · rintro rfl
      exact absurd ranges (by decide)
  · simp only [List.mem_cons, List.not_mem_nil, or_false] at isSign
    rcases isSign with rfl | rfl | rfl
    all_goals decide

/-! ### Accepted texts -/

theorem IsName.slashless {text : String} (isName : IsName text) : '/' ∉ text.toList :=
  fun member => (isName.framed.characters '/' member).plain.2.2 rfl

theorem IsDnsName.slashless {text : String} (isDns : IsDnsName text) : '/' ∉ text.toList :=
  fun member => (isDns.isNameCharacter '/' member).plain.2.2 rfl

theorem checkKey_of_slashless {key : String} (whole : '/' ∉ key.toList) :
    checkKey key = checkName key.toList := by
  rw [checkKey, splitKey_of_not_mem whole]

theorem checkKey_append {domain name : String} (whole : '/' ∉ domain.toList) :
    checkKey (domain ++ "/" ++ name) =
      checkPrefix domain.toList >>= fun _ => checkName name.toList := by
  have divides : (domain ++ "/" ++ name).toList = domain.toList ++ '/' :: name.toList := by simp
  rw [checkKey, divides, splitKey_append whole]

/-- A text has no slash, or it divides at its first one. -/
theorem slashless_or_divides (key : String) :
    '/' ∉ key.toList ∨
      ∃ domain name : String, '/' ∉ domain.toList ∧ key = domain ++ "/" ++ name := by
  by_cases slash : '/' ∈ key.toList
  · obtain ⟨front, name, divides, whole⟩ := List.eq_append_cons_of_mem slash
    refine .inr ⟨String.ofList front, String.ofList name, by simpa using whole, ?_⟩
    rw [← String.toList_inj, divides]
    simp
  · exact .inl slash

theorem checkKey_eq_ok_iff {key : String} : checkKey key = .ok () ↔ IsKey key := by
  constructor
  · intro passes
    rcases slashless_or_divides key with whole | ⟨domain, name, whole, rfl⟩
    · rw [checkKey_of_slashless whole, checkName_eq_ok_iff] at passes
      exact .inl passes
    · rw [checkKey_append whole, check_bind_eq_ok_iff, checkPrefix_eq_ok_iff,
        checkName_eq_ok_iff] at passes
      exact .inr ⟨domain, name, passes.1, passes.2, rfl⟩
  · rintro (isName | ⟨domain, name, isDns, isName, rfl⟩)
    · rw [checkKey_of_slashless isName.slashless, checkName_eq_ok_iff]
      exact isName
    · rw [checkKey_append isDns.slashless, check_bind_eq_ok_iff, checkPrefix_eq_ok_iff,
        checkName_eq_ok_iff]
      exact ⟨isDns, isName⟩

theorem not_foreign_of {text : String} (slashes : text.toList.count '/' ≤ 1)
    (known : ∀ c ∈ text.toList, IsNameCharacter c ∨ c = '/') : ¬Foreign text := by
  rintro (twoSlashes | ⟨c, member, foreign⟩)
  · omega
  · rcases known c member with isName | rfl
    · obtain ⟨ascii, notBlank, _⟩ := isName.plain
      rcases foreign with notAscii | blank
      · omega
      · exact absurd (blank.symm.trans notBlank) (by decide)
    · revert foreign
      decide

theorem IsName.not_foreign {text : String} (isName : IsName text) : ¬Foreign text :=
  not_foreign_of (by simp [List.count_eq_zero_of_not_mem isName.slashless])
    fun c member => .inl (isName.framed.characters c member)

theorem IsKey.not_foreign {key : String} (isKey : IsKey key) : ¬Foreign key := by
  rcases isKey with isName | ⟨domain, name, isDns, isName, rfl⟩
  · exact isName.not_foreign
  · refine not_foreign_of ?_ fun c member => ?_
    · simp [List.count_eq_zero_of_not_mem isDns.slashless,
        List.count_eq_zero_of_not_mem isName.slashless]
    · simp only [String.toList_append, List.mem_append] at member
      rcases member with (inDomain | isSlash) | inName
      · exact .inl (isDns.isNameCharacter c inDomain)
      · exact .inr (by simpa using isSlash)
      · exact .inl (isName.framed.characters c inName)

theorem IsValue.not_foreign {value : String} (isValue : IsValue value) : ¬Foreign value := by
  rcases isValue with rfl | isName
  · exact not_foreign_of (Nat.zero_le _) fun c member => absurd member List.not_mem_nil
  · exact isName.not_foreign

/-- The checks accept exactly the keys and the values of the grammar, and no text with two slashes,
with a character beyond ASCII or with a blank. -/
theorem syntax_accepts_exactly :
    (∀ key, checkKey key = .ok () ↔ IsKey key) ∧
      (∀ value, checkValue value = .ok () ↔ IsValue value) ∧
        ∀ text, Foreign text → checkKey text ≠ .ok () ∧ checkValue text ≠ .ok () := by
  refine ⟨fun key => checkKey_eq_ok_iff, fun value => checkValue_eq_ok_iff, fun text foreign => ?_⟩
  exact ⟨fun passes => (checkKey_eq_ok_iff.mp passes).not_foreign foreign,
    fun passes => (checkValue_eq_ok_iff.mp passes).not_foreign foreign⟩

/-- A second slash is no part of a name. -/
theorem syntax_accepts_exactly_twoSlashes :
    Foreign "example.com/app/web" ∧ checkKey "example.com/app/web" ≠ .ok () := by
  have twoSlashes : Foreign "example.com/app/web" := .inl (by decide)
  exact ⟨twoSlashes, (syntax_accepts_exactly.2.2 _ twoSlashes).1⟩

/-- A line break at the end is refused too. -/
example : checkValue "app\n" = .error .badValue := by decide

end AvailabilityGate.Label
