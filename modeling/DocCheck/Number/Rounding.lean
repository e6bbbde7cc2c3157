/-!
# Rounding a quotient

The quotient of two natural numbers is rounded to the nearest integer, and a
quotient halfway between two integers goes to the even one.
-/

namespace DocCheck

/-- The integer nearest to a quotient, the even one of two that are equally
near. -/
def roundedQuotient (numerator denominator : Nat) : Nat :=
  let floor := numerator / denominator
  let remainder := numerator % denominator
  if 2 * remainder < denominator then
    floor
  else if denominator < 2 * remainder then
    floor + 1
  else
    floor + floor % 2

/-- A rounded quotient is the integer below the quotient or the next one. -/
theorem roundedQuotient_eq_or (numerator denominator : Nat) :
    roundedQuotient numerator denominator = numerator / denominator ∨
      roundedQuotient numerator denominator =
        numerator / denominator + 1 := by
  have parity := Nat.mod_two_eq_zero_or_one (numerator / denominator)
  unfold roundedQuotient
  simp only
  split
  · exact Or.inl rfl
  · split
    · exact Or.inr rfl
    · omega

/-- An integer is its own nearest integer. -/
theorem roundedQuotient_one (numerator : Nat) :
    roundedQuotient numerator 1 = numerator := by
  simp [roundedQuotient, Nat.mod_one]

end DocCheck
