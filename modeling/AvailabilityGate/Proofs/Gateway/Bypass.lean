import AvailabilityGate.Gateway.Basic
import AvailabilityGate.Proofs.Text.Division
import Mathlib.Data.List.Basic

/-!
Owns the namespaces that are let pass as texts name them: a text names a namespace if the name
stands in it between two commas, or a comma and an end, with blanks around it or without.

Main statements: the configuration that is meant by texts lets pass the namespaces that they name
and no request besides; the order of the pieces of a text, repeated pieces and blank ones do not
matter.
-/

namespace AvailabilityGate

namespace GatewayConfig

theorem mem_sortedNames {names : List String} {name : String} :
    name ∈ sortedNames names ↔ name ∈ names := by
  rw [sortedNames, ← Table.contains_iff, Table.contains, Table.get?_ofList, List.lookup_isSome_iff]
  simp

/-- Sorted names are the same if they are but for their order and their number. -/
theorem sortedNames_eq {names others : List String}
    (same : ∀ name, name ∈ sortedNames names ↔ name ∈ sortedNames others) :
    sortedNames names = sortedNames others := by
  unfold sortedNames at same ⊢
  refine congrArg Table.keys (Table.eq_of_get? fun name => Option.ext fun () => ?_)
  have listed := same name
  rw [← Table.contains_iff, ← Table.contains_iff] at listed
  simpa only [Table.contains, Option.isSome_iff_exists, Unique.exists_iff] using listed

/-- The configuration that is meant by texts. -/
def ofTexts (texts : List String) (unsetSelector : UnsetSelector) : GatewayConfig :=
  ofWritten (texts.flatMap splitNames) unsetSelector

/-- A piece of one of the texts between commas. -/
def IsWritten (texts : List String) (piece : List Char) : Prop :=
  ∃ text ∈ texts, Text.IsPiece ',' text.toList piece

/-- The namespace stands in one of the texts, and it is one. -/
def IsNamed (texts : List String) (home : String) : Prop :=
  home ≠ "" ∧ ∃ piece, IsWritten texts piece ∧ Text.IsCore piece home.toList

variable {texts others : List String} {unset : UnsetSelector} {home : String}

theorem mem_splitNames_iff {text name : String} :
    name ∈ splitNames text ↔ Text.IsPiece ',' text.toList name.toList := by
  rw [splitNames, List.mem_map, ← Text.mem_pieces_iff]
  constructor
  · rintro ⟨piece, among, rfl⟩
    rwa [String.toList_ofList]
  · intro among
    exact ⟨name.toList, among, String.ofList_toList⟩

theorem mem_ignored_ofTexts_iff : home ∈ (ofTexts texts unset).ignored ↔ IsNamed texts home := by
  have isMember : home ∈ (ofTexts texts unset).ignored ↔
      (∃ name, (∃ text ∈ texts, name ∈ splitNames text) ∧ Text.trim name = home) ∧ home ≠ "" := by
    unfold ofTexts ofWritten ofNames
    rw [mem_sortedNames, List.mem_filter, List.mem_map, decide_eq_true_eq]
    simp only [List.mem_flatMap]
  rw [isMember, and_comm, IsNamed]
  refine and_congr_right fun _ => ?_
  constructor
  · rintro ⟨name, ⟨text, isText, among⟩, isTrimmed⟩
    exact ⟨name.toList, ⟨text, isText, mem_splitNames_iff.mp among⟩, Text.trim_eq_iff.mp isTrimmed⟩
  · rintro ⟨piece, ⟨text, isText, isPiece⟩, isCore⟩
    refine ⟨String.ofList piece, ⟨text, isText, mem_splitNames_iff.mpr ?_⟩,
      Text.trim_eq_iff.mpr ?_⟩ <;> rwa [String.toList_ofList]

theorem ignores_ofTexts_iff :
    (ofTexts texts unset).ignores (some home) = true ↔ IsNamed texts home := by
  rw [ignores, Option.any_some, List.contains_iff_mem, mem_ignored_ofTexts_iff]

/-- Only the pieces that are not blank matter, and of these only which they are. -/
theorem isNamed_congr
    (same : ∀ piece, (∃ c ∈ piece, Text.isBlank c = false) →
      (IsWritten texts piece ↔ IsWritten others piece)) :
    IsNamed texts home ↔ IsNamed others home := by
  refine and_congr_right fun nonempty => exists_congr fun piece => and_congr_left fun isCore => ?_
  have notEmpty : home.toList ≠ [] := fun isEmpty => nonempty (String.toList_eq_nil_iff.mp isEmpty)
  exact same piece (isCore.exists_not_blank notEmpty)

theorem ofTexts_congr (same : ∀ home, IsNamed texts home ↔ IsNamed others home) :
    ofTexts texts unset = ofTexts others unset := by
  have sameMembers : ∀ home,
      home ∈ (ofTexts texts unset).ignored ↔ home ∈ (ofTexts others unset).ignored := fun home =>
    mem_ignored_ofTexts_iff.trans ((same home).trans mem_ignored_ofTexts_iff.symm)
  exact congrArg (GatewayConfig.mk · unset) (sortedNames_eq sameMembers)

end GatewayConfig

namespace Gateway

/-- A request that is not let pass is reviewed as if nothing were. -/
theorem review_of_not_ignores {config : GatewayConfig} {request : Admission.Request}
    (watched : config.ignores request.home = false) (source : PolicySource) :
    review ⟨config, source⟩ request = review ⟨{ config with ignored := [] }, source⟩ request := by
  have nothing : ({ config with ignored := [] } : GatewayConfig).ignores request.home = false := by
    cases found : request.home <;> simp [GatewayConfig.ignores]
  rw [review, review, if_neg (by simp [watched]), if_neg (by simp [nothing])]
  rfl

end Gateway

namespace GatewayConfig

/-- What is let pass is what the texts name, and nothing else. -/
structure LetsPass (config : GatewayConfig) (texts : List String) : Prop where
  named : ∀ home, config.ignores (some home) = true ↔ IsNamed texts home
  /-- Not let pass is a request in no namespace, in one without a name, or in one with a blank at an
  end of its name. -/
  watched : ∀ request : Admission.Request,
    (∀ home ∈ request.home, home = "" ∨ ¬ Text.IsBare home.toList) →
      config.ignores request.home = false ∧ ∀ source : PolicySource,
        Gateway.review ⟨config, source⟩ request =
          Gateway.review ⟨{ config with ignored := [] }, source⟩ request
  /-- The pieces may come in any order and any number, with blank pieces among them. -/
  rearranged : ∀ others : List String,
    (∀ piece, (∃ c ∈ piece, Text.isBlank c = false) →
      (IsWritten texts piece ↔ IsWritten others piece)) →
    ofTexts others config.unsetSelector = config

theorem ofTexts_letsPass (texts : List String) (unset : UnsetSelector) :
    LetsPass (ofTexts texts unset) texts := by
  constructor
  case named => exact fun home => ignores_ofTexts_iff
  case watched =>
    intro request unnamable
    have watched : (ofTexts texts unset).ignores request.home = false := by
      cases isHome : request.home with
      | none => rfl
      | some home =>
          refine Bool.eq_false_iff.mpr fun ignored => ?_
          obtain ⟨nonempty, piece, _, isBare, _⟩ := ignores_ofTexts_iff.mp ignored
          rcases unnamable home isHome with isEmpty | blankEnd
          · exact nonempty isEmpty
          · exact blankEnd isBare
    exact ⟨watched, Gateway.review_of_not_ignores watched⟩
  case rearranged => exact fun others same => (ofTexts_congr fun home => isNamed_congr same).symm

end GatewayConfig

end AvailabilityGate
