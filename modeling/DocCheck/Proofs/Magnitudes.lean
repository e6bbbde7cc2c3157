import DocCheck.Number.Basic
import Mathlib.Algebra.Order.Group.Nat
import Mathlib.Tactic.Ring

/-!
# The order of the magnitudes

The magnitudes of one scale lie evenly between two powers of two, and those
of a greater scale lie above all of them.  So a magnitude is known by its
number of units, and numbers compare as the signed numbers of units that they
stand for.
-/

namespace DocCheck

namespace Magnitude

/-! ## Binades -/

theorem units_eq (magnitude : Magnitude) :
    magnitude.units = magnitude.significand * 2 ^ magnitude.scale :=
  rfl

theorem significand_lt (magnitude : Magnitude) :
    magnitude.significand < 2 ^ 53 :=
  magnitude.canonical.1

theorem scale_le (magnitude : Magnitude) : magnitude.scale ≤ 2045 :=
  magnitude.canonical.2.1

theorem le_significand {magnitude : Magnitude}
    (scaled : 0 < magnitude.scale) : 2 ^ 52 ≤ magnitude.significand := by
  rcases magnitude.canonical.2.2 with flat | large
  · omega
  · exact large

/-- A magnitude stays below every binade of a greater scale. -/
theorem units_lt_of_scale_lt {magnitude : Magnitude} {scale : Nat}
    (smaller : magnitude.scale < scale) :
    magnitude.units < 2 ^ 52 * 2 ^ scale := by
  calc
    magnitude.units < 2 ^ 53 * 2 ^ magnitude.scale :=
      Nat.mul_lt_mul_of_pos_right magnitude.significand_lt
        (Nat.two_pow_pos _)
    _ = 2 ^ 52 * 2 ^ (magnitude.scale + 1) := by ring
    _ ≤ 2 ^ 52 * 2 ^ scale :=
      Nat.mul_le_mul_left _ (Nat.pow_le_pow_right Nat.two_pos smaller)

/-- A magnitude of a positive scale lies in the binade of this scale. -/
theorem le_units {magnitude : Magnitude} (scaled : 0 < magnitude.scale) :
    2 ^ 52 * 2 ^ magnitude.scale ≤ magnitude.units :=
  Nat.mul_le_mul_right _ (le_significand scaled)

variable {left right : Magnitude}

/-- The scales are in the order of the units. -/
theorem scale_le_of_units_le (below : left.units ≤ right.units) :
    left.scale ≤ right.scale := by
  by_contra greater
  have smaller : right.scale < left.scale := Nat.lt_of_not_le greater
  have upper := units_lt_of_scale_lt smaller
  have lower := le_units (Nat.zero_lt_of_lt smaller)
  omega

/-- A magnitude is known by its number of units. -/
theorem units_injective : Function.Injective units := by
  intro left right same
  have sameScale : left.scale = right.scale :=
    Nat.le_antisymm (scale_le_of_units_le same.le)
      (scale_le_of_units_le same.ge)
  have sameSignificand : left.significand = right.significand := by
    rw [units_eq, units_eq, sameScale] at same
    exact Nat.eq_of_mul_eq_mul_right (Nat.two_pow_pos _) same
  obtain ⟨leftSignificand, leftScale, _⟩ := left
  obtain ⟨rightSignificand, rightScale, _⟩ := right
  dsimp only at sameScale sameSignificand
  subst sameScale sameSignificand
  rfl

theorem units_inj : left.units = right.units ↔ left = right :=
  units_injective.eq_iff

end Magnitude

/-! ## Comparing numbers -/

namespace Number

/-- Two numbers that the floating-point format takes for equal: the same
infinity, or finite numbers of the same signed size.  So the two zeros are
equal, and not-a-number is equal to nothing. -/
inductive Agree : Number → Number → Prop
  | infinite (negative : Bool) :
      Agree (infinite negative) (infinite negative)
  | finite {leftSign rightSign : Bool} {left right : Magnitude} :
      signedUnits leftSign left = signedUnits rightSign right →
      Agree (finite leftSign left) (finite rightSign right)

theorem signedUnits_eq_iff {leftSign rightSign : Bool}
    {left right : Magnitude} :
    signedUnits leftSign left = signedUnits rightSign right ↔
      left = right ∧ (leftSign = rightSign ∨ left = Magnitude.zero) := by
  rw [← Magnitude.units_inj, ← Magnitude.units_eq_zero_iff]
  unfold signedUnits
  cases leftSign <;> cases rightSign <;> simp <;> omega

theorem beq_iff_agree {left right : Number} :
    (left == right) = true ↔ Agree left right := by
  constructor
  · intro equal
    cases left <;> cases right <;>
      simp only [beq_def, beq, Bool.false_eq_true] at equal
    case infinite.infinite =>
      obtain rfl := eq_of_beq equal
      exact .infinite _
    case finite.finite =>
      exact .finite (signedUnits_eq_iff.mpr (by simpa using equal))
  · intro agree
    cases agree with
    | infinite negative => simp [beq_def, beq]
    | finite same =>
        simpa [beq_def, beq] using signedUnits_eq_iff.mp same

theorem Agree.trans {left middle right : Number}
    (first : Agree left middle) (second : Agree middle right) :
    Agree left right := by
  cases first with
  | infinite negative => exact second
  | finite same =>
      cases second with
      | finite sameAgain => exact .finite (same.trans sameAgain)

end Number

end DocCheck
