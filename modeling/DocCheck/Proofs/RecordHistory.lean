import DocCheck.Proofs.ByteOrder
import DocCheck.Proofs.ValueEquality
import DocCheck.Value.Written
import Mathlib.Data.Finset.Card

/-!
# What was written to a record

The fields of a record are written from a list or one by one.  However they
came about, the record tells of every name what was written under it last,
and it does so in one way only: it lists the names in the order of their
bytes, each once.  So the order of the writing leaves no trace, and only
not-a-number keeps two records with the same last writers from being equal.
-/

namespace DocCheck

/-! ## The last writer of a name -/

section LastWritten

variable {α : Type}

/-- What was written under a name last. -/
def lastWritten? (name : String) (writes : List (String × α)) : Option α :=
  (writes.filterMap fun write =>
    if write.1 = name then some write.2 else none).getLast?

theorem lastWritten?_concat (name : String) (writes : List (String × α))
    (write : String × α) :
    lastWritten? name (writes ++ [write]) =
      if write.1 = name then some write.2 else lastWritten? name writes := by
  by_cases same : write.1 = name <;> simp [lastWritten?, same]

theorem mem_of_lastWritten? {name : String} {writes : List (String × α)}
    {item : α} (last : lastWritten? name writes = some item) :
    (name, item) ∈ writes := by
  obtain ⟨write, member, found⟩ :=
    List.mem_filterMap.mp (List.mem_of_getLast? last)
  obtain ⟨same, value⟩ := Option.ite_none_right_eq_some.mp found
  rw [← same, ← Option.some.inj value]
  exact member

/-- Where no name is written twice, every writer is the last one. -/
theorem lastWritten?_of_mem {name : String} {writes : List (String × α)}
    {item : α} (once : (writes.map Prod.fst).Nodup)
    (member : (name, item) ∈ writes) :
    lastWritten? name writes = some item := by
  induction writes using List.reverseRecOn with
  | nil => cases member
  | append_singleton writes write inductionHypothesis =>
      rw [List.map_append, List.nodup_append] at once
      rw [lastWritten?_concat]
      rcases List.mem_append.mp member with before | here
      · have different : write.1 ≠ name := by
          intro same
          exact once.2.2 name (List.mem_map_of_mem before) write.1
            (by simp) same.symm
        rw [if_neg different, inductionHypothesis once.1 before]
      · obtain rfl := List.mem_singleton.mp here
        rw [if_pos rfl]

end LastWritten

namespace Table

section Answers

variable {α : Type}

theorem ofList_concat (pairs : List (String × α)) (pair : String × α) :
    ofList (pairs ++ [pair]) = (ofList pairs).insert pair.1 pair.2 :=
  List.foldl_concat _ _ _ _

theorem get?_ofList (pairs : List (String × α)) (name : String) :
    (ofList pairs).get? name = lastWritten? name pairs := by
  induction pairs using List.reverseRecOn with
  | nil => exact get?_empty name
  | append_singleton pairs pair inductionHypothesis =>
      rw [ofList_concat, get?_insert, lastWritten?_concat,
        inductionHypothesis]
      simp only [eq_comm]

theorem mem_keys_ofList {pairs : List (String × α)} {name : String} :
    name ∈ (ofList pairs).keys ↔ name ∈ pairs.map Prod.fst := by
  induction pairs using List.reverseRecOn with
  | nil => simp [ofList, keys, empty, NameSet.empty]
  | append_singleton pairs pair inductionHypothesis =>
      rw [ofList_concat, keys, insert, NameSet.mem_toList,
        NameSet.mem_insert, ← NameSet.mem_toList, ← keys,
        inductionHypothesis]
      simp [or_comm]

theorem nodup_keys (table : Table α) : table.keys.Nodup :=
  table.names.ascending.imp fun smaller => String.ne_of_lt smaller

theorem mem_entries_iff {table : Table α} {name : String} {item : α} :
    (name, item) ∈ table.entries ↔ table.get? name = some item := by
  rw [get?_eq_some_iff, entries, List.mem_map]
  constructor
  · rintro ⟨⟨_, member⟩, _, rfl, rfl⟩
    exact ⟨member, rfl⟩
  · rintro ⟨member, rfl⟩
    exact ⟨⟨name, member⟩, List.mem_attach _ _, rfl⟩

/-- Every table is made from its own entries. -/
theorem ofList_entries (table : Table α) : ofList table.entries = table := by
  have once : (table.entries.map Prod.fst).Nodup := by
    rw [map_fst_entries]
    exact table.nodup_keys
  refine ext_get? fun name => Option.ext fun item => ?_
  rw [get?_ofList, ← mem_entries_iff]
  exact ⟨mem_of_lastWritten?, lastWritten?_of_mem once⟩

theorem size_ofList (pairs : List (String × α)) :
    (ofList pairs).size = (pairs.map Prod.fst).toFinset.card := by
  rw [size, ← List.toFinset_card_of_nodup (nodup_keys _)]
  congr 1
  ext name
  rw [List.mem_toFinset, List.mem_toFinset, mem_keys_ofList]

end Answers

/-- A table that came about by writing these items under these names, all at
once or one by one. -/
inductive MadeBy {α : Type} : List (String × α) → Table α → Prop
  | empty : MadeBy [] Table.empty
  | ofList (pairs : List (String × α)) : MadeBy pairs (Table.ofList pairs)
  | insert {writes : List (String × α)} {table : Table α} :
      MadeBy writes table → ∀ (name : String) (item : α),
        MadeBy (writes ++ [(name, item)]) (table.insert name item)

theorem MadeBy.eq_ofList {α : Type} {writes : List (String × α)}
    {table : Table α} (made : MadeBy writes table) :
    table = Table.ofList writes := by
  induction made with
  | empty => rfl
  | ofList pairs => rfl
  | insert made name item inductionHypothesis =>
      rw [ofList_concat, ← inductionHypothesis]

theorem madeBy_entries {α : Type} (table : Table α) :
    MadeBy table.entries table := by
  have made := MadeBy.ofList table.entries
  rwa [ofList_entries] at made

/-- The fields of a record are shown as they are listed. -/
theorem writtenFields_eq (table : Table Value) :
    Value.writtenFields table =
      if table.entries = [] then
        "\x7b\x7d"
      else
        "\x7b " ++
          ", ".intercalate (table.entries.map fun entry =>
            entry.1 ++ ": " ++ entry.2.written) ++
          " \x7d" := by
  obtain ⟨names, value⟩ := table
  have unfolded : Value.writtenFields ⟨names, value⟩ =
      if names.toList.isEmpty then
        "\x7b\x7d"
      else
        "\x7b " ++
          ", ".intercalate (names.toList.attach.map fun name =>
            name.1 ++ ": " ++ (value name.1 name.2).written) ++
          " \x7d" :=
    rfl
  simp [unfolded, entries, List.map_map, Function.comp_def]

/-- A table that tells of every name what was written under it last: it lists
the names that were written in the order of their bytes, each once with its
last item, and shows its fields in this order. -/
structure TellsLast (table : Table Value) (writes : List (String × Value)) :
    Prop where
  ascending :
    (table.entries.map Prod.fst).Pairwise fun earlier later =>
      utf8Bytes earlier < utf8Bytes later
  mem_entries_iff :
    ∀ name value,
      (name, value) ∈ table.entries ↔ lastWritten? name writes = some value
  written :
    (Value.record table).written =
      if table.entries = [] then
        "\x7b\x7d"
      else
        "\x7b " ++
          ", ".intercalate (table.entries.map fun entry =>
            entry.1 ++ ": " ++ entry.2.written) ++
          " \x7d"
  get? : ∀ name, table.get? name = lastWritten? name writes
  size : table.size = (writes.map Prod.fst).toFinset.card
  eq_ofList : table = ofList writes

theorem MadeBy.tellsLast {writes : List (String × Value)}
    {table : Table Value} (made : MadeBy writes table) :
    table.TellsLast writes := by
  obtain rfl := made.eq_ofList
  exact {
    ascending := by
      rw [map_fst_entries]
      exact pairwise_keys _
    mem_entries_iff := fun name value => by
      rw [Table.mem_entries_iff, get?_ofList]
    written := writtenFields_eq _
    get? := get?_ofList writes
    size := size_ofList writes
    eq_ofList := rfl }

/-- Two tables with the same last writers are one, so only not-a-number keeps
the records from being equal. -/
theorem TellsLast.indistinguishable {writes others : List (String × Value)}
    {table other : Table Value} (tells : table.TellsLast writes)
    (otherTells : other.TellsLast others)
    (sameLast :
      ∀ name, lastWritten? name writes = lastWritten? name others) :
    table = other ∧
    ((Value.record table == Value.record other) = true ↔
      ∀ name value, lastWritten? name writes = some value →
        ¬ value.HoldsNaN) := by
  have same : table = other := ext_get? fun name => by
    rw [tells.get?, otherTells.get?, sameLast]
  subst same
  refine ⟨rfl, ?_⟩
  rw [Value.beq_self_iff, Value.holdsNaN_iff_of_fields rfl]
  simp only [tells.get?, not_exists, not_and]

end Table

end DocCheck
