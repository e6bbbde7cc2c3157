import DocCheck.Proofs.RecordHistory

/-!
# Records and their copies

A host holds records and instances.  It makes them anew, sets their fields,
and copies them: as a whole, with a field set, as the fields of an instance,
or out of a field in which they stand.  Every one of them tells what was
written to it last.  A copy shares nothing with its origin, so whatever is
done to the others leaves the answers of a record as they were.

Copies may share their fields until one of them is written to, and only then
is a table of its own made for it.  Such shared tables are taken as values
here, which makes the copy at once.  That setting a field leaves the others
as they are follows from this reading: what is held changes at one place
only, by `List.modify`.
-/

namespace DocCheck

/-- A record or an instance that a host holds, and what was written to its
fields. -/
structure Held where
  className? : Option String
  fields : Table Value
  writes : List (String × Value)

namespace Held

def value (held : Held) : Value :=
  match held.className? with
  | none => .record held.fields
  | some className => .instanceOf className held.fields

/-- Sets a field. -/
def set (held : Held) (name : String) (item : Value) : Held where
  className? := held.className?
  fields := held.fields.insert name item
  writes := held.writes ++ [(name, item)]

/-- A copy of a record or an instance that stands in a field. -/
def ofValue? : Value → Option Held
  | .record fields => some ⟨none, fields, fields.entries⟩
  | .instanceOf className fields =>
      some ⟨some className, fields, fields.entries⟩
  | _ => none

/-- What a host does with what it holds.  This is counted from zero, and what
is made anew comes behind all others. -/
inductive Action where
  | new
  | ofList (fields : List (String × Value))
  | clone (source : Nat)
  | withField (source : Nat) (name : String) (item : Value)
  | instantiate (source : Nat) (className : String)
  | takeOut (source : Nat) (name : String)
  | set (target : Nat) (name : String) (item : Value)
  | putIn (target : Nat) (name : String) (source : Nat)

namespace Action

/-- What is made anew. -/
def made? (all : List Held) : Action → Option Held
  | new => some ⟨none, Table.empty, []⟩
  | ofList fields => some ⟨none, Table.ofList fields, fields⟩
  | clone source => all[source]?
  | withField source name item =>
      all[source]?.map fun held => held.set name item
  | instantiate source className =>
      all[source]?.map fun held => { held with className? := className }
  | takeOut source name =>
      (all[source]?.bind fun held => held.fields.get? name).bind ofValue?
  | set _ _ _ => none
  | putIn _ _ _ => none

/-- What is left of the others: the same, but for the one whose field is
set. -/
def changed (all : List Held) : Action → List Held
  | set target name item => all.modify target fun held => held.set name item
  | putIn target name source =>
      match all[source]? with
      | some inner => all.modify target fun held => held.set name inner.value
      | none => all
  | _ => all

/-- What is held after an action. -/
def perform (all : List Held) (action : Action) : List Held :=
  action.changed all ++ (action.made? all).toList

/-- The one whose field is set. -/
def target? : Action → Option Nat
  | set target _ _ => some target
  | putIn target _ _ => some target
  | _ => none

end Action

/-- What is held after a sequence of actions. -/
def after (all : List Held) (actions : List Action) : List Held :=
  actions.foldl Action.perform all

theorem after_append (all : List Held) (front back : List Action) :
    after all (front ++ back) = after (after all front) back :=
  List.foldl_append

/-! ## Histories -/

/-- The fields came about by what was written to them. -/
def Sound (held : Held) : Prop :=
  Table.MadeBy held.writes held.fields

theorem Sound.set {held : Held} (sound : held.Sound) (name : String)
    (item : Value) : (held.set name item).Sound :=
  Table.MadeBy.insert sound name item

theorem sound_of_ofValue? {value : Value} {held : Held}
    (copied : ofValue? value = some held) : held.Sound := by
  cases value <;> cases copied
  · exact Table.madeBy_entries _
  · exact Table.madeBy_entries _

section Step

variable {all : List Held} (sound : ∀ held ∈ all, held.Sound)

include sound

theorem sound_of_mem_modify {target : Nat} {name : String} {item : Value} :
    ∀ held ∈ all.modify target (fun held => held.set name item),
      held.Sound := by
  intro held member
  obtain ⟨index, found⟩ := List.mem_iff_getElem?.mp member
  rw [List.getElem?_modify, Option.map_eq_map, Option.map_eq_some_iff]
    at found
  obtain ⟨before, inAll, rfl⟩ := found
  have soundBefore := sound before (List.mem_of_getElem? inAll)
  split
  · exact soundBefore.set name item
  · exact soundBefore

theorem Action.sound_changed (action : Action) :
    ∀ held ∈ action.changed all, held.Sound := by
  cases action with
  | set target name item => exact sound_of_mem_modify sound
  | putIn target name source =>
      rw [changed]
      split
      · exact sound_of_mem_modify sound
      · exact sound
  | _ => exact sound

theorem Action.sound_made? {action : Action} {held : Held}
    (made : action.made? all = some held) : held.Sound := by
  cases action with
  | new =>
      cases made
      exact .empty
  | ofList fields =>
      cases made
      exact .ofList fields
  | clone source => exact sound held (List.mem_of_getElem? made)
  | withField source name item =>
      obtain ⟨origin, found, rfl⟩ := Option.map_eq_some_iff.mp made
      exact (sound origin (List.mem_of_getElem? found)).set name item
  | instantiate source className =>
      obtain ⟨origin, found, rfl⟩ := Option.map_eq_some_iff.mp made
      exact sound origin (List.mem_of_getElem? found)
  | takeOut source name =>
      obtain ⟨value, _, copied⟩ := Option.bind_eq_some_iff.mp made
      exact sound_of_ofValue? copied
  | set target name item => cases made
  | putIn target name source => cases made

theorem Action.sound_perform (action : Action) :
    ∀ held ∈ action.perform all, held.Sound := by
  intro held member
  rcases List.mem_append.mp member with kept | anew
  · exact action.sound_changed sound held kept
  · exact sound_made? sound (Option.mem_toList.mp anew)

theorem sound_after (actions : List Action) :
    ∀ held ∈ after all actions, held.Sound := by
  induction actions generalizing all with
  | nil => exact sound
  | cons action actions inductionHypothesis =>
      exact inductionHypothesis (action.sound_perform sound)

end Step

/-! ## Other records -/

namespace Action

variable {all : List Held} {action : Action} {index : Nat}

theorem length_changed (all : List Held) (action : Action) :
    (action.changed all).length = all.length := by
  cases action with
  | set target name item => exact List.length_modify _ _ _
  | putIn target name source =>
      rw [changed]
      split
      · exact List.length_modify _ _ _
      · rfl
  | _ => rfl

theorem getElem?_changed (other : action.target? ≠ some index) :
    (action.changed all)[index]? = all[index]? := by
  have unmodified (target : Nat) (change : Held → Held)
      (different : target ≠ index) :
      (all.modify target change)[index]? = all[index]? :=
    List.getElem?_modify_ne change all different
  cases action with
  | set target name item =>
      exact unmodified target _ fun same => other (congrArg some same)
  | putIn target name source =>
      rw [changed]
      split
      · exact unmodified target _ fun same => other (congrArg some same)
      · rfl
  | _ => rfl

theorem lt_length_perform (inside : index < all.length) :
    index < (action.perform all).length := by
  rw [perform, List.length_append, length_changed]
  exact Nat.lt_add_right _ inside

/-- An action that sets no field of a record leaves it as it was. -/
theorem getElem?_perform (inside : index < all.length)
    (other : action.target? ≠ some index) :
    (action.perform all)[index]? = all[index]? := by
  rw [perform, List.getElem?_append_left (by rwa [length_changed]),
    getElem?_changed other]

end Action

/-- So do actions of which none sets a field of it. -/
theorem getElem?_after {all : List Held} {actions : List Action}
    {index : Nat} (inside : index < all.length)
    (others : ∀ action ∈ actions, action.target? ≠ some index) :
    (after all actions)[index]? = all[index]? := by
  induction actions generalizing all with
  | nil => rfl
  | cons action actions inductionHypothesis =>
      rw [List.forall_mem_cons] at others
      rw [after, List.foldl_cons, ← after,
        inductionHypothesis (Action.lt_length_perform inside) others.2,
        Action.getElem?_perform inside others.1]

theorem getElem?_after_set {all : List Held} {target : Nat} {held : Held}
    (found : all[target]? = some held) (name : String) (item : Value) :
    (after all [.set target name item])[target]? =
      some (held.set name item) := by
  have inside : target < all.length :=
    (List.getElem?_eq_some_iff.mp found).1
  rw [after, List.foldl_cons, List.foldl_nil, Action.perform,
    List.getElem?_append_left (by rwa [Action.length_changed]),
    Action.changed, List.getElem?_modify_eq, found]
  rfl

end Held

/-- Whatever a host does, each record that it holds tells what was written to
it last.  Records with the same last writers have the same entries and the
same text, whatever the order in which they were written, and they are equal
unless one of these items holds not-a-number.  Later actions leave every
record as it was whose fields they do not set; and setting a field changes
the answer for its name only. -/
theorem held_records_tell_what_was_written_last
    (actions : List Held.Action) :
    let all := Held.after [] actions
    (∀ held ∈ all, held.fields.TellsLast held.writes) ∧
    (∀ (others : List Held.Action) (held other : Held), held ∈ all →
      other ∈ Held.after [] others →
      (∀ name, lastWritten? name held.writes =
        lastWritten? name other.writes) →
      held.fields.entries = other.fields.entries ∧
      (Value.record held.fields).written =
        (Value.record other.fields).written ∧
      ((Value.record held.fields == Value.record other.fields) = true ↔
        ∀ name value, lastWritten? name held.writes = some value →
          ¬ value.HoldsNaN)) ∧
    (∀ (later : List Held.Action) (index : Nat), index < all.length →
      (∀ action ∈ later, action.target? ≠ some index) →
      (Held.after [] (actions ++ later))[index]? = all[index]?) ∧
    ∀ (target : Nat) (held : Held) (name : String) (item : Value),
      all[target]? = some held →
      ∃ changed : Held,
        (Held.after [] (actions ++ [.set target name item]))[target]? =
          some changed ∧
        changed.className? = held.className? ∧
        ∀ other, changed.fields.get? other =
          if other = name then some item else held.fields.get? other := by
  intro all
  have tells (made : List Held.Action) :
      ∀ held ∈ Held.after [] made, held.fields.TellsLast held.writes := by
    intro held member
    exact (Held.sound_after (by simp) made held member).tellsLast
  refine ⟨tells actions, ?_, ?_, ?_⟩
  · intro others held other member otherMember sameLast
    have same := (tells actions held member).indistinguishable
      (tells others other otherMember) sameLast
    exact ⟨congrArg Table.entries same.1,
      congrArg (fun fields => (Value.record fields).written) same.1, same.2⟩
  · intro later index inside untouched
    rw [Held.after_append]
    exact Held.getElem?_after inside untouched
  · intro target held name item found
    rw [Held.after_append]
    exact ⟨_, Held.getElem?_after_set found name item, rfl,
      fun other => Table.get?_insert held.fields name other item⟩

end DocCheck
