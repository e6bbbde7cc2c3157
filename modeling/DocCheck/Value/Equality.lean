import DocCheck.Value.Basic

/-!
# Equality of values

Values of different kinds are never equal.  Numbers compare as
floating-point numbers, so a value that holds not-a-number somewhere differs
from itself.  Records are equal when they have the same names and equal
values under every name, and instances when their classes agree too.
-/

namespace DocCheck.Value

mutual

/-- Whether two values are equal. -/
def beq : Value → Value → Bool
  | undefined, undefined => true
  | bool left, bool right => left == right
  | number left, number right => left == right
  | string left, string right => left == right
  | record left, record right => beqFields left right
  | instanceOf leftClass left, instanceOf rightClass right =>
      leftClass == rightClass && beqFields left right
  | _, _ => false
termination_by structural value => value

/-- Whether two tables have the same names and equal values under them. -/
def beqFields : Table Value → Table Value → Bool
  | ⟨names, value⟩, right =>
      names.toList == right.keys &&
        names.toList.attach.all fun name =>
          (right.get? name.1).any (value name.1 name.2).beq
termination_by structural fields => fields

end

instance : BEq Value :=
  ⟨beq⟩

theorem beq_def (left right : Value) : (left == right) = beq left right :=
  rfl

/-- Equal values are of one kind. -/
theorem kindName_eq_of_beq {left right : Value}
    (equal : (left == right) = true) : left.kindName = right.kindName := by
  rw [beq_def] at equal
  cases left <;> cases right <;> simp [beq, kindName] at equal ⊢

end DocCheck.Value
