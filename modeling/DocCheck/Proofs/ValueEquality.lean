import DocCheck.Value.Equality

/-!
# Equality of values and not-a-number

Records and instances are compared name by name, so equality of values is
settled by equality of what stands inside.  Since not-a-number differs from
itself, a value is equal to itself exactly when it holds no not-a-number, at
whatever depth.
-/

namespace DocCheck

theorem Table.get?_eq_some_iff {α : Type} {table : Table α} {name : String}
    {item : α} :
    table.get? name = some item ↔
      ∃ member : name ∈ table.names, table.value name member = item := by
  by_cases member : name ∈ table.names <;> simp [get?, member]

namespace Value

/-! ## Induction over fields -/

/-- A property that holds of the values without fields, and of a record or an
instance as soon as it holds of its fields, holds of all values. -/
@[elab_as_elim]
theorem induction {motive : Value → Prop}
    (undefined : motive undefined)
    (bool : ∀ truth, motive (bool truth))
    (number : ∀ value, motive (number value))
    (string : ∀ text, motive (string text))
    (record : ∀ fields : Table Value,
      (∀ name inner, fields.get? name = some inner → motive inner) →
      motive (record fields))
    (instanceOf : ∀ className (fields : Table Value),
      (∀ name inner, fields.get? name = some inner → motive inner) →
      motive (instanceOf className fields))
    (value : Value) : motive value :=
  @Value.rec motive
    (fun fields => ∀ name inner, fields.get? name = some inner → motive inner)
    undefined bool number string record instanceOf
    (fun names value inFields name inner found => by
      obtain ⟨member, rfl⟩ := Table.get?_eq_some_iff.mp found
      exact inFields name member)
    value

/-! ## Equality name by name -/

/-- Two tables with the same names and equal values under every name. -/
structure FieldsEqual (left right : Table Value) : Prop where
  names : left.names = right.names
  values :
    ∀ name inner other, left.get? name = some inner →
      right.get? name = some other → (inner == other) = true

theorem beqFields_iff {left right : Table Value} :
    beqFields left right = true ↔ FieldsEqual left right := by
  obtain ⟨names, value⟩ := left
  rw [beqFields, Bool.and_eq_true, beq_iff_eq, List.all_eq_true]
  constructor
  · intro given
    obtain ⟨sameKeys, equal⟩ := given
    refine ⟨NameSet.ext fun name => ?_, ?_⟩
    · rw [← NameSet.mem_toList, sameKeys, Table.keys, NameSet.mem_toList]
    · intro name inner other found otherFound
      obtain ⟨member, rfl⟩ := Table.get?_eq_some_iff.mp found
      have equalHere := equal ⟨name, member⟩ (List.mem_attach _ _)
      rwa [otherFound, Option.any_some] at equalHere
  · intro equal
    refine ⟨congrArg NameSet.toList equal.names, fun name _ => ?_⟩
    have member : name.1 ∈ right.names := equal.names ▸ name.2
    rw [Table.get?_of_mem member, Option.any_some]
    exact equal.values name.1 _ _ (Table.get?_of_mem name.2)
      (Table.get?_of_mem member)

theorem record_beq_iff {left right : Table Value} :
    (record left == record right) = true ↔ FieldsEqual left right := by
  rw [beq_def, beq, beqFields_iff]

theorem instanceOf_beq_iff {leftClass rightClass : String}
    {left right : Table Value} :
    (instanceOf leftClass left == instanceOf rightClass right) = true ↔
      leftClass = rightClass ∧ FieldsEqual left right := by
  rw [beq_def, beq, Bool.and_eq_true, beq_iff_eq, beqFields_iff]

theorem fieldsEqual_self_iff {fields : Table Value} :
    FieldsEqual fields fields ↔
      ∀ name inner, fields.get? name = some inner →
        (inner == inner) = true := by
  constructor
  · intro equal name inner found
    exact equal.values name inner inner found found
  · intro equalInside
    refine ⟨rfl, fun name inner other found otherFound => ?_⟩
    obtain rfl := Option.some.inj (found.symm.trans otherFound)
    exact equalInside name inner found

/-! ## Not-a-number inside -/

/-- Not-a-number is the value or stands in a field, at whatever depth. -/
inductive HoldsNaN : Value → Prop
  | number : HoldsNaN (number .nan)
  | field {value inner : Value} {fields : Table Value} {name : String} :
      value.fields? = some fields → fields.get? name = some inner →
      HoldsNaN inner → HoldsNaN value

theorem holdsNaN_number_iff {value : Number} :
    (number value).HoldsNaN ↔ value.isNaN = true := by
  constructor
  · intro holds
    cases holds with
    | number => rfl
    | field hasFields _ _ => cases hasFields
  · intro isNaN
    cases value with
    | nan => exact .number
    | infinite _ => cases isNaN
    | finite _ _ => cases isNaN

theorem holdsNaN_iff_of_fields {value : Value} {fields : Table Value}
    (hasFields : value.fields? = some fields) :
    value.HoldsNaN ↔
      ∃ name inner, fields.get? name = some inner ∧ inner.HoldsNaN := by
  constructor
  · intro holds
    cases holds with
    | number => cases hasFields
    | field otherFields found inside =>
        obtain rfl := Option.some.inj (hasFields.symm.trans otherFields)
        exact ⟨_, _, found, inside⟩
  · intro given
    obtain ⟨name, inner, found, inside⟩ := given
    exact .field hasFields found inside

theorem not_holdsNaN_of_plain {value : Value}
    (noFields : value.fields? = none)
    (noNumber : value.asNumber? = none) : ¬ value.HoldsNaN := by
  intro holds
  cases holds with
  | number => cases noNumber
  | field hasFields _ _ =>
      rw [noFields] at hasFields
      cases hasFields

theorem fieldsEqual_self_iff_not_holdsNaN {value : Value}
    {fields : Table Value} (hasFields : value.fields? = some fields)
    (inside :
      ∀ name inner, fields.get? name = some inner →
        ((inner == inner) = true ↔ ¬ inner.HoldsNaN)) :
    FieldsEqual fields fields ↔ ¬ value.HoldsNaN := by
  rw [fieldsEqual_self_iff, holdsNaN_iff_of_fields hasFields]
  simp only [not_exists, not_and]
  exact forall_congr' fun name => forall_congr' fun inner =>
    forall_congr' (inside name inner)

/-- A value is equal to itself exactly when it holds no not-a-number. -/
theorem beq_self_iff (value : Value) :
    (value == value) = true ↔ ¬ value.HoldsNaN := by
  induction value using induction with
  | undefined => exact iff_of_true rfl (not_holdsNaN_of_plain rfl rfl)
  | bool truth =>
      exact iff_of_true (by simp [beq_def, beq])
        (not_holdsNaN_of_plain rfl rfl)
  | number value =>
      rw [holdsNaN_number_iff, beq_def, beq, Number.beq_self,
        Bool.not_eq_true, Bool.not_eq_true']
  | string text =>
      exact iff_of_true (by simp [beq_def, beq])
        (not_holdsNaN_of_plain rfl rfl)
  | record fields inductionHypothesis =>
      rw [record_beq_iff]
      exact fieldsEqual_self_iff_not_holdsNaN rfl inductionHypothesis
  | instanceOf className fields inductionHypothesis =>
      rw [instanceOf_beq_iff, eq_self, true_and]
      exact fieldsEqual_self_iff_not_holdsNaN rfl inductionHypothesis

end Value

end DocCheck
