import DocCheck.Proofs.Extension
import DocCheck.Proofs.RegistryAnswers

/-!
# Tags for documented types

A documented type is meant to stand for the registered tag of its name,
whatever their case, and for the tag of strings where no tag has such a name.
Only the type is put in lower case for this, the tags stay as they were
registered.  So a tag in lower case is found under every spelling, while one
with capitals is passed over, even by a type that is spelled like it.
-/

namespace DocCheck

/-! ## Names up to case -/

/-- Texts that differ at most in the case of their letters. -/
def SameIgnoringCase (left right : List Char) : Prop :=
  left.map Char.toLower = right.map Char.toLower

instance (left right : List Char) : Decidable (SameIgnoringCase left right) :=
  inferInstanceAs (Decidable (_ = _))

/-- A character in lower case is its own lower case. -/
theorem toLower_toLower (c : Char) : c.toLower.toLower = c.toLower := by
  unfold Char.toLower
  split
  · next capital =>
      refine dif_neg ?_
      rintro ⟨_, upper⟩
      simp only [UInt32.le_iff_toNat_le, ge_iff_le, Char.reduceVal,
        UInt32.toNat_add, UInt32.reduceToNat, UInt32.reduceSub]
        at capital upper
      omega
  · rfl

namespace Tag

/-- The name of the tag is the type without outer blanks, up to case. -/
def Resembles (tag : Tag) (type : String) : Prop :=
  SameIgnoringCase tag.name.toList (trim type.toList)

instance (tag : Tag) (type : String) : Decidable (tag.Resembles type) :=
  inferInstanceAs (Decidable (SameIgnoringCase _ _))

def IsLowerCase (tag : Tag) : Prop :=
  tag.name.toList.map Char.toLower = tag.name.toList

instance (tag : Tag) : Decidable tag.IsLowerCase :=
  inferInstanceAs (Decidable (_ = _))

variable {tag : Tag} {type : String}

theorem spelledBy_iff :
    tag.SpelledBy type ↔ tag.Resembles type ∧ tag.IsLowerCase := by
  constructor
  · intro spelled
    have lowerCase : tag.IsLowerCase := by
      rw [IsLowerCase, ← spelled, List.map_map]
      exact List.map_congr_left fun c _ => toLower_toLower c
    exact ⟨lowerCase.trans spelled.symm, lowerCase⟩
  · rintro ⟨resembles, lowerCase⟩
    exact resembles.symm.trans lowerCase

theorem spelledBy_lowered (type : String) :
    Tag.SpelledBy ⟨String.ofList ((trim type.toList).map Char.toLower)⟩
      type :=
  String.toList_ofList.symm

end Tag

/-- The type is the word for truth values, which stands for their tag. -/
def MeansTruth (type : String) : Prop :=
  Tag.Resembles ⟨"boolean"⟩ type

instance (type : String) : Decidable (MeansTruth type) :=
  inferInstanceAs (Decidable (Tag.Resembles _ _))

/-! ## The tag for a type -/

namespace Registry

/-- A registered tag whose name is the type, up to outer blanks and case. -/
def Matches (registry : Registry) (type : String) (tag : Tag) : Prop :=
  registry.contains tag = true ∧ tag.Resembles type

/-- What is documented of types: one that matches a registered tag stands for
such a tag, and any other one for the tag of strings. -/
structure FindsType (registry : Registry) (type : String) : Prop where
  known :
    (∃ tag, registry.Matches type tag) →
      registry.Matches type (registry.tagFor type)
  unknown :
    (¬ ∃ tag, registry.Matches type tag) →
      registry.tagFor type = Tag.string

theorem declaredName_of_meansTruth {type : String}
    (truth : MeansTruth type) : declaredName type = Tag.bool.name := by
  have name :
      String.ofList ((trim type.toList).map Char.toLower) = "boolean" := by
    rw [← truth]
    decide
  rw [declaredName, if_pos name]
  rfl

theorem declaredName_of_spelledBy {type : String} {tag : Tag}
    (spelled : tag.SpelledBy type) (noTruth : ¬ MeansTruth type) :
    declaredName type = tag.name := by
  have lowered :
      String.ofList ((trim type.toList).map Char.toLower) = tag.name := by
    rw [spelled, String.ofList_toList]
  have notBoolean : tag.name ≠ "boolean" := by
    intro boolean
    obtain ⟨name⟩ := tag
    obtain rfl : name = "boolean" := boolean
    exact noTruth (Tag.spelledBy_iff.mp spelled).1
  rw [declaredName, lowered, if_neg notBoolean]

variable {registry : Registry} {type : String} {tag : Tag}

theorem tagFor_of_spelledBy (noTruth : ¬ MeansTruth type)
    (spelled : tag.SpelledBy type) :
    registry.tagFor type =
      if registry.contains tag then tag else Tag.string := by
  rw [tagFor, declaredName_of_spelledBy spelled noTruth]

theorem Matches.tagFor_eq (noTruth : ¬ MeansTruth type)
    (found : registry.Matches type tag) (lowerCase : tag.IsLowerCase) :
    registry.tagFor type = tag := by
  have spelled := Tag.spelledBy_iff.mpr ⟨found.2, lowerCase⟩
  rw [tagFor_of_spelledBy noTruth spelled, if_pos found.1]

theorem tagFor_eq_string (noTruth : ¬ MeansTruth type)
    (noMatch : ¬ ∃ tag, registry.Matches type tag ∧ tag.IsLowerCase) :
    registry.tagFor type = Tag.string := by
  have spelled := Tag.spelledBy_lowered type
  obtain ⟨resembles, lowerCase⟩ := Tag.spelledBy_iff.mp spelled
  rw [tagFor_of_spelledBy noTruth spelled]
  exact if_neg fun contained =>
    noMatch ⟨_, ⟨contained, resembles⟩, lowerCase⟩

theorem findsType_iff (noTruth : ¬ MeansTruth type) :
    registry.FindsType type ↔
      ((∃ tag, registry.Matches type tag) →
        ∃ tag, registry.Matches type tag ∧ tag.IsLowerCase) := by
  constructor
  · intro finds given
    by_contra noMatch
    -- The tag of strings is itself in lower case.
    have matched := finds.known given
    rw [tagFor_eq_string noTruth noMatch] at matched
    exact noMatch ⟨Tag.string, matched, by decide⟩
  · intro toLowerCase
    constructor
    · intro given
      obtain ⟨tag, found, lowerCase⟩ := toLowerCase given
      rwa [found.tagFor_eq noTruth lowerCase]
    · intro noTag
      apply tagFor_eq_string noTruth
      rintro ⟨tag, found, _⟩
      exact noTag ⟨tag, found⟩

/-- As long as only tags in lower case are registered, every type but the
alias for truth values is found as documented. -/
theorem RecordedBy.findsType {history : List Event}
    (recorded : registry.RecordedBy history)
    (lowerCase : ∀ tag, EverRegistered history tag → tag.IsLowerCase)
    (noTruth : ¬ MeansTruth type) : registry.FindsType type := by
  rw [findsType_iff noTruth]
  rintro ⟨tag, found⟩
  have registered :=
    (recorded.contains_iff_everRegistered tag).mp found.1
  exact ⟨tag, found, lowerCase tag registered⟩

end Registry

/-- A type other than the alias for truth values is found as documented
exactly if a tag in lower case matches it whenever some tag does: such a tag
is the one it stands for, and without one it is a type of strings.  The alias
stands for the tag of truth values, if that is registered. -/
theorem types_find_tags_in_lower_case (registry : Registry)
    (type : String) :
    (¬ MeansTruth type →
      (registry.FindsType type ↔
        ((∃ tag, registry.Matches type tag) →
          ∃ tag, registry.Matches type tag ∧ tag.IsLowerCase)) ∧
      (∀ tag, registry.Matches type tag → tag.IsLowerCase →
        registry.tagFor type = tag) ∧
      ((¬ ∃ tag, registry.Matches type tag ∧ tag.IsLowerCase) →
        registry.tagFor type = Tag.string)) ∧
    (MeansTruth type → registry.contains Tag.bool = true →
      registry.tagFor type = Tag.bool) := by
  constructor
  · intro noTruth
    exact ⟨Registry.findsType_iff noTruth,
      fun _ found lowerCase => found.tagFor_eq noTruth lowerCase,
      Registry.tagFor_eq_string noTruth⟩
  · intro truth contained
    rw [Registry.tagFor, Registry.declaredName_of_meansTruth truth,
      if_pos contained]

/-- A tag with a capital is passed over by the very type that is spelled like
it. -/
theorem capital_tag_is_not_found :
    let registry :=
      Registry.standard.after [.register ⟨"Date"⟩ .text]
    ¬ MeansTruth "Date" ∧ registry.Matches "Date" ⟨"Date"⟩ ∧
    registry.tagFor "Date" = Tag.string ∧
    ¬ registry.FindsType "Date" := by
  intro registry
  have noTruth : ¬ MeansTruth "Date" := by decide
  have matched : registry.Matches "Date" ⟨"Date"⟩ := by
    constructor <;> decide
  have string : registry.tagFor "Date" = Tag.string := by decide
  refine ⟨noTruth, matched, string, ?_⟩
  intro finds
  have resembles := (finds.known ⟨_, matched⟩).2
  rw [string] at resembles
  revert resembles
  decide

end DocCheck
