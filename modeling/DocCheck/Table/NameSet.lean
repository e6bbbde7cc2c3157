/-!
# Sets of names

A finite set of names is kept as a list in ascending order of the code
points, each name once, so two sets with the same members are equal.
-/

namespace DocCheck

/-- Puts a name into an ascending list of names unless it stands there. -/
def insertName (name : String) : List String → List String
  | [] => [name]
  | first :: others =>
      if name < first then
        name :: first :: others
      else if name = first then
        first :: others
      else
        first :: insertName name others

@[simp]
theorem mem_insertName {name other : String} {names : List String} :
    other ∈ insertName name names ↔ other = name ∨ other ∈ names := by
  induction names with
  | nil => simp [insertName]
  | cons first others inductionHypothesis =>
      unfold insertName
      split
      · simp
      · split
        · next same => simp [same]
        · simp only [List.mem_cons, inductionHypothesis]
          exact or_left_comm

theorem pairwise_insertName {name : String} {names : List String}
    (ascending : names.Pairwise (· < ·)) :
    (insertName name names).Pairwise (· < ·) := by
  induction ascending with
  | nil => simp [insertName]
  | @cons first others below ascending inductionHypothesis =>
      unfold insertName
      split
      · next smaller =>
          refine .cons ?_ (.cons below ascending)
          intro other member
          rcases List.mem_cons.1 member with rfl | member
          · exact smaller
          · exact String.lt_trans smaller (below other member)
      · split
        · exact .cons below ascending
        · next notSmaller different =>
            refine .cons ?_ inductionHypothesis
            intro other member
            rcases mem_insertName.1 member with rfl | member
            · exact Decidable.byContradiction fun notLarger =>
                different (String.le_antisymm
                  (String.not_lt.1 notLarger) (String.not_lt.1 notSmaller))
            · exact below other member

/-- A finite set of names in ascending order. -/
structure NameSet where
  toList : List String
  ascending : toList.Pairwise (· < ·)

namespace NameSet

instance : Membership String NameSet :=
  ⟨fun names name => name ∈ names.toList⟩

instance (name : String) (names : NameSet) : Decidable (name ∈ names) :=
  inferInstanceAs (Decidable (name ∈ names.toList))

def empty : NameSet :=
  ⟨[], .nil⟩

def insert (names : NameSet) (name : String) : NameSet :=
  ⟨insertName name names.toList, pairwise_insertName names.ascending⟩

theorem mem_toList {name : String} {names : NameSet} :
    name ∈ names.toList ↔ name ∈ names :=
  Iff.rfl

@[simp]
theorem not_mem_empty (name : String) : ¬name ∈ empty :=
  List.not_mem_nil

@[simp]
theorem mem_insert {names : NameSet} {name other : String} :
    other ∈ names.insert name ↔ other = name ∨ other ∈ names :=
  mem_insertName

/-- A set of names is determined by its members. -/
theorem ext {left right : NameSet}
    (same : ∀ name, name ∈ left ↔ name ∈ right) : left = right := by
  obtain ⟨leftNames, leftAscending⟩ := left
  obtain ⟨rightNames, rightAscending⟩ := right
  have lists : leftNames = rightNames := by
    have permutation : leftNames.Perm rightNames :=
      (List.perm_ext_iff_of_nodup
        (leftAscending.imp fun smaller => String.ne_of_lt smaller)
        (rightAscending.imp fun smaller => String.ne_of_lt smaller)).2 same
    exact permutation.eq_of_pairwise
      (fun _ _ _ _ below above => absurd above (String.lt_asymm below))
      leftAscending rightAscending
  subst lists
  rfl

end NameSet

end DocCheck
