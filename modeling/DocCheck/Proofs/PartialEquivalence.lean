import DocCheck.Proofs.Magnitudes
import DocCheck.Proofs.ValueEquality

/-!
# Equality of values is a partial equivalence

Equal values are of one kind, and they agree in what their kind holds: the
same truth value or text, numbers that the floating-point format takes for
equal, or fields of the same names with equal values, for instances of one
class.  Therefore equality is symmetric and transitive, and equal values are
equal at every place inside.  It is not reflexive: exactly the values without
not-a-number inside equal themselves.
-/

namespace DocCheck

namespace Value

/-! ## One step of the comparison -/

/-- Two values of one kind that agree in what their kind holds. -/
inductive Agree : Value → Value → Prop
  | undefined : Agree undefined undefined
  | bool (truth : Bool) : Agree (bool truth) (bool truth)
  | number {left right : Number} :
      left.Agree right → Agree (number left) (number right)
  | string (text : String) : Agree (string text) (string text)
  | record {left right : Table Value} :
      FieldsEqual left right → Agree (record left) (record right)
  | instanceOf (className : String) {left right : Table Value} :
      FieldsEqual left right →
      Agree (instanceOf className left) (instanceOf className right)

theorem beq_iff_agree {left right : Value} :
    (left == right) = true ↔ Agree left right := by
  constructor
  · intro equal
    have sameKind := kindName_eq_of_beq equal
    cases left <;> cases right <;> simp [kindName] at sameKind
    case undefined.undefined => exact .undefined
    case bool.bool =>
      rw [beq_def, beq] at equal
      obtain rfl := eq_of_beq equal
      exact .bool _
    case number.number =>
      rw [beq_def, beq] at equal
      exact .number (Number.beq_iff_agree.mp equal)
    case string.string =>
      rw [beq_def, beq] at equal
      obtain rfl := eq_of_beq equal
      exact .string _
    case record.record => exact .record (record_beq_iff.mp equal)
    case instanceOf.instanceOf =>
      obtain ⟨rfl, fields⟩ := instanceOf_beq_iff.mp equal
      exact .instanceOf _ fields
  · intro agree
    cases agree with
    | undefined => rfl
    | bool truth => rw [beq_def, beq, beq_self_eq_true]
    | number numbers =>
        rw [beq_def, beq]
        exact Number.beq_iff_agree.mpr numbers
    | string text => rw [beq_def, beq, beq_self_eq_true]
    | record fields => exact record_beq_iff.mpr fields
    | instanceOf className fields =>
        exact instanceOf_beq_iff.mpr ⟨rfl, fields⟩

/-! ## Fields -/

section Fields

variable {left middle right : Table Value}

theorem FieldsEqual.exists_get? (equal : FieldsEqual left right)
    {name : String} {inner : Value} (found : left.get? name = some inner) :
    ∃ other, right.get? name = some other ∧ (inner == other) = true := by
  have member : name ∈ right.names := by
    rw [← equal.names, ← Table.isSome_get?, found]
    rfl
  have otherFound := Table.get?_of_mem member
  exact ⟨_, otherFound, equal.values name inner _ found otherFound⟩

theorem FieldsEqual.symm (equal : FieldsEqual left right)
    (inside : ∀ name inner, left.get? name = some inner →
      ∀ other, (inner == other) = true → (other == inner) = true) :
    FieldsEqual right left where
  names := equal.names.symm
  values name inner other found otherFound :=
    inside name other otherFound inner
      (equal.values name other inner otherFound found)

theorem FieldsEqual.trans (first : FieldsEqual left middle)
    (second : FieldsEqual middle right)
    (inside : ∀ name inner, left.get? name = some inner →
      ∀ between other, (inner == between) = true →
        (between == other) = true → (inner == other) = true) :
    FieldsEqual left right where
  names := first.names.trans second.names
  values name inner other found otherFound := by
    obtain ⟨between, betweenFound, equal⟩ := first.exists_get? found
    exact inside name inner found between other equal
      (second.values name between other betweenFound otherFound)

end Fields

/-! ## Symmetry and transitivity -/

theorem beq_symm {left right : Value} (equal : (left == right) = true) :
    (right == left) = true := by
  induction left using induction generalizing right with
  | undefined =>
      cases beq_iff_agree.mp equal
      exact equal
  | bool truth =>
      cases beq_iff_agree.mp equal
      exact equal
  | number value =>
      cases beq_iff_agree.mp equal with
      | number _ =>
          rw [beq_def, beq, Number.beq_comm]
          rwa [beq_def, beq] at equal
  | string text =>
      cases beq_iff_agree.mp equal
      exact equal
  | record fields inductionHypothesis =>
      cases beq_iff_agree.mp equal with
      | record same =>
          refine record_beq_iff.mpr (same.symm ?_)
          exact fun name inner found other =>
            inductionHypothesis name inner found
  | instanceOf className fields inductionHypothesis =>
      cases beq_iff_agree.mp equal with
      | instanceOf _ same =>
          refine instanceOf_beq_iff.mpr ⟨rfl, same.symm ?_⟩
          exact fun name inner found other =>
            inductionHypothesis name inner found

theorem beq_trans {left middle right : Value}
    (first : (left == middle) = true) (second : (middle == right) = true) :
    (left == right) = true := by
  induction left using induction generalizing middle right with
  | undefined =>
      cases beq_iff_agree.mp first
      exact second
  | bool truth =>
      cases beq_iff_agree.mp first
      exact second
  | number value =>
      cases beq_iff_agree.mp first with
      | number numbers =>
          cases beq_iff_agree.mp second with
          | number others =>
              exact beq_iff_agree.mpr (.number (numbers.trans others))
  | string text =>
      cases beq_iff_agree.mp first
      exact second
  | record fields inductionHypothesis =>
      cases beq_iff_agree.mp first with
      | record same =>
          cases beq_iff_agree.mp second with
          | record others =>
              refine record_beq_iff.mpr (same.trans others ?_)
              exact fun name inner found between other =>
                inductionHypothesis name inner found
  | instanceOf className fields inductionHypothesis =>
      cases beq_iff_agree.mp first with
      | instanceOf _ same =>
          cases beq_iff_agree.mp second with
          | instanceOf _ others =>
              refine instanceOf_beq_iff.mpr ⟨rfl, same.trans others ?_⟩
              exact fun name inner found between other =>
                inductionHypothesis name inner found

theorem beq_comm (left right : Value) : (left == right) = (right == left) :=
  Bool.eq_iff_iff.mpr ⟨beq_symm, beq_symm⟩

/-! ## Places inside -/

/-- What stands at a place inside a value.  A place is told by the names that
lead to it, from the outside in. -/
def inside? : List String → Value → Option Value
  | [], value => some value
  | name :: path, value =>
      (value.fields?.bind fun fields => fields.get? name).bind
        (inside? path)

theorem Agree.exists_fields? {left right : Value} (agree : Agree left right)
    {fields : Table Value} (hasFields : left.fields? = some fields) :
    ∃ others, right.fields? = some others ∧ FieldsEqual fields others := by
  cases agree with
  | record equal =>
      cases hasFields
      exact ⟨_, rfl, equal⟩
  | instanceOf className equal =>
      cases hasFields
      exact ⟨_, rfl, equal⟩
  | _ => cases hasFields

/-- Equal values are equal at every place inside. -/
theorem exists_inside?_of_beq {path : List String}
    {left right inner : Value} (equal : (left == right) = true)
    (found : left.inside? path = some inner) :
    ∃ other, right.inside? path = some other ∧ (inner == other) = true := by
  induction path generalizing left right with
  | nil =>
      cases found
      exact ⟨right, rfl, equal⟩
  | cons name path inductionHypothesis =>
      obtain ⟨field, fieldFound, inField⟩ := Option.bind_eq_some_iff.mp found
      obtain ⟨fields, hasFields, named⟩ :=
        Option.bind_eq_some_iff.mp fieldFound
      obtain ⟨others, otherFields, sameFields⟩ :=
        (beq_iff_agree.mp equal).exists_fields? hasFields
      obtain ⟨otherField, otherNamed, equalField⟩ :=
        sameFields.exists_get? named
      obtain ⟨other, inOther, equalInside⟩ :=
        inductionHypothesis equalField inField
      refine ⟨other, ?_, equalInside⟩
      rw [inside?, otherFields, Option.bind_some, otherNamed,
        Option.bind_some, inOther]

/-- Values of different kinds at one place inside keep two values apart. -/
theorem beq_eq_false_of_kindName_ne {path : List String}
    {left right inner other : Value}
    (found : left.inside? path = some inner)
    (otherFound : right.inside? path = some other)
    (different : inner.kindName ≠ other.kindName) :
    (left == right) = false := by
  rw [Bool.eq_false_iff]
  intro equal
  obtain ⟨same, sameFound, equalInside⟩ := exists_inside?_of_beq equal found
  obtain rfl := Option.some.inj (otherFound.symm.trans sameFound)
  exact different (kindName_eq_of_beq equalInside)

theorem holdsNaN_iff_inside? {value : Value} :
    value.HoldsNaN ↔ ∃ path, value.inside? path = some (number .nan) := by
  constructor
  · intro holds
    induction holds with
    | number => exact ⟨[], rfl⟩
    | @field value inner fields name hasFields found _ inductionHypothesis =>
        obtain ⟨path, inField⟩ := inductionHypothesis
        refine ⟨name :: path, ?_⟩
        rw [inside?, hasFields, Option.bind_some, found, Option.bind_some,
          inField]
  · intro given
    obtain ⟨path, found⟩ := given
    induction path generalizing value with
    | nil =>
        cases found
        exact .number
    | cons name path inductionHypothesis =>
        obtain ⟨field, fieldFound, inField⟩ :=
          Option.bind_eq_some_iff.mp found
        obtain ⟨fields, hasFields, named⟩ :=
          Option.bind_eq_some_iff.mp fieldFound
        exact .field hasFields named (inductionHypothesis inField)

end Value

/-- Equality of values, at whatever depth, is symmetric and transitive.  Values
of different kinds are never equal, at the top or at a place inside.  A value
equals itself exactly when not-a-number stands at no place inside.  Records
are equal exactly when they have the same names with equal values, instances
when their classes agree too, and numbers as the floating-point format lays
down. -/
theorem equality_is_partial_equivalence_by_kind :
    (∀ left right : Value, (left == right) = (right == left)) ∧
    (∀ left middle right : Value, (left == middle) = true →
      (middle == right) = true → (left == right) = true) ∧
    (∀ (path : List String) (left right inner other : Value),
      left.inside? path = some inner → right.inside? path = some other →
      inner.kindName ≠ other.kindName → (left == right) = false) ∧
    (∀ value : Value, (value == value) = true ↔
      ∀ path, value.inside? path ≠ some (.number .nan)) ∧
    (∀ left right : Table Value,
      (Value.record left == Value.record right) = true ↔
        Value.FieldsEqual left right) ∧
    (∀ (leftClass rightClass : String) (left right : Table Value),
      (Value.instanceOf leftClass left ==
          Value.instanceOf rightClass right) = true ↔
        leftClass = rightClass ∧ Value.FieldsEqual left right) ∧
    ∀ left right : Number,
      (Value.number left == Value.number right) = true ↔
        left.Agree right := by
  refine ⟨Value.beq_comm, fun _ _ _ => Value.beq_trans,
    fun _ _ _ _ _ => Value.beq_eq_false_of_kindName_ne, fun value => ?_,
    fun _ _ => Value.record_beq_iff,
    fun _ _ _ _ => Value.instanceOf_beq_iff,
    fun _ _ => Number.beq_iff_agree⟩
  rw [Value.beq_self_iff, Value.holdsNaN_iff_inside?, not_exists]

end DocCheck
