import DocCheck.Table.NameSet

/-!
# Tables

A table gives a value to each of finitely many names.  It is listed in the
order of its names, so in one way only, and two tables with the same answers
are equal.
-/

namespace DocCheck

/-- A finite map from names. -/
structure Table (α : Type) where
  names : NameSet
  value : (name : String) → name ∈ names → α

namespace Table

variable {α : Type}

def empty : Table α :=
  ⟨NameSet.empty, fun name member =>
    absurd member (NameSet.not_mem_empty name)⟩

instance : Inhabited (Table α) :=
  ⟨empty⟩

/-- Gives a name its value, in place of the one that it has. -/
def insert (table : Table α) (name : String) (new : α) : Table α where
  names := table.names.insert name
  value other member :=
    if different : other ≠ name then
      table.value other
        ((NameSet.mem_insert.1 member).resolve_left different)
    else
      new

/-- The table of a list of pairs, in which the last pair of a name
counts. -/
def ofList (pairs : List (String × α)) : Table α :=
  pairs.foldl (fun table pair => table.insert pair.1 pair.2) empty

/-- The value of a name. -/
def get? (table : Table α) (name : String) : Option α :=
  if member : name ∈ table.names then
    some (table.value name member)
  else
    none

def contains (table : Table α) (name : String) : Bool :=
  name ∈ table.names

/-- The names in ascending order. -/
def keys (table : Table α) : List String :=
  table.names.toList

def size (table : Table α) : Nat :=
  table.keys.length

/-- The names with their values, in ascending order of the names. -/
def entries (table : Table α) : List (String × α) :=
  table.names.toList.attach.map fun name =>
    (name.1, table.value name.1 name.2)

@[simp]
theorem get?_empty (name : String) : (empty : Table α).get? name = none :=
  dif_neg (NameSet.not_mem_empty name)

theorem get?_of_mem {table : Table α} {name : String}
    (member : name ∈ table.names) :
    table.get? name = some (table.value name member) :=
  dif_pos member

@[simp]
theorem isSome_get? {table : Table α} {name : String} :
    (table.get? name).isSome ↔ name ∈ table.names := by
  by_cases member : name ∈ table.names <;> simp [get?, member]

/-- Only the inserted name changes its value. -/
theorem get?_insert (table : Table α) (name other : String) (new : α) :
    (table.insert name new).get? other =
      if other = name then some new else table.get? other := by
  by_cases same : other = name
  · have member : other ∈ (table.insert name new).names :=
      NameSet.mem_insert.2 (.inl same)
    rw [get?_of_mem member, if_pos same]
    exact congrArg some (dif_neg (not_not_intro same))
  · rw [if_neg same]
    by_cases member : other ∈ table.names
    · have inserted : other ∈ (table.insert name new).names :=
        NameSet.mem_insert.2 (.inr member)
      rw [get?_of_mem inserted, get?_of_mem member]
      exact congrArg some (dif_pos same)
    · have absent : ¬other ∈ (table.insert name new).names := fun inserted =>
        (NameSet.mem_insert.1 inserted).elim same member
      simp [get?, absent, member]

/-- A table is determined by its answers. -/
theorem ext_get? {left right : Table α}
    (same : ∀ name, left.get? name = right.get? name) : left = right := by
  have names : left.names = right.names := NameSet.ext fun name => by
    rw [← isSome_get?, same name, isSome_get?]
  obtain ⟨leftNames, leftValue⟩ := left
  obtain ⟨rightNames, rightValue⟩ := right
  dsimp only at names
  subst names
  congr
  funext name member
  have answers := same name
  have leftAnswer : (⟨leftNames, leftValue⟩ : Table α).get? name =
      some (leftValue name member) := get?_of_mem member
  have rightAnswer : (⟨leftNames, rightValue⟩ : Table α).get? name =
      some (rightValue name member) := get?_of_mem member
  rw [leftAnswer, rightAnswer] at answers
  exact Option.some.inj answers

/-- The names of the entries are the keys. -/
theorem map_fst_entries (table : Table α) :
    table.entries.map Prod.fst = table.keys := by
  simp [entries, keys, List.map_map, Function.comp_def]

end Table

end DocCheck
