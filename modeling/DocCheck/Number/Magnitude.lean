import DocCheck.Number.Decimal
import DocCheck.Number.Rounding

/-!
# Magnitudes of binary floating-point numbers

A magnitude is the absolute value of a finite number in the 64-bit binary
format.  All of them are whole multiples of the smallest positive one, the
unit `2 ^ -1074`; a magnitude is a significand of at most 53 bits times a
power of two of units.  It is canonical when its significand has all 53 bits
or its scale is zero, so equal magnitudes are equal pairs.

A non-negative quotient of units is rounded to the nearest magnitude, ties
to the even significand; a quotient that rounds beyond the largest magnitude
has none.
-/

namespace DocCheck

/-- Whether a significand and a scale are the canonical pair of a finite
magnitude. -/
def CanonicalPair (significand scale : Nat) : Prop :=
  significand < Nat.pow 2 53 ∧ scale ≤ 2045 ∧
    (scale = 0 ∨ Nat.pow 2 52 ≤ significand)

instance (significand scale : Nat) :
    Decidable (CanonicalPair significand scale) :=
  inferInstanceAs (Decidable (_ ∧ _ ∧ (_ ∨ _)))

/-- The magnitude of `significand * 2 ^ scale` units of `2 ^ -1074`. -/
structure Magnitude where
  significand : Nat
  scale : Nat
  canonical : CanonicalPair significand scale
deriving DecidableEq

/-- The number of units in one. -/
def unitsPerOne : Nat :=
  Nat.pow 2 1074

namespace Magnitude

/-- The magnitude of zero. -/
def zero : Magnitude :=
  ⟨0, 0, by decide⟩

/-- A magnitude as a number of units. -/
def units (magnitude : Magnitude) : Nat :=
  magnitude.significand * Nat.pow 2 magnitude.scale

/-- The magnitude of a canonical pair. -/
def ofPair? (significand scale : Nat) : Option Magnitude :=
  if canonical : CanonicalPair significand scale then
    some ⟨significand, scale, canonical⟩
  else
    none

/-- The magnitude nearest to a quotient of units.  The scale is that of the
integer below the quotient; a significand that rounds up to 54 bits is the
smallest one of the next scale. -/
def nearest? (numerator denominator : Nat) : Option Magnitude :=
  let scale := (numerator / denominator).log2 - 52
  let significand :=
    roundedQuotient numerator (denominator * Nat.pow 2 scale)
  if significand = Nat.pow 2 53 then
    ofPair? (Nat.pow 2 52) (scale + 1)
  else
    ofPair? significand scale

/-- The magnitude nearest to a decimal.

An exponent above 400 puts any nonzero decimal beyond every magnitude, and
one so far below zero that the decimal is under `2 ^ -1075` makes it round to
zero, so neither is expanded. -/
def ofDecimal? (decimal : Decimal) : Option Magnitude :=
  if decimal.coefficient = 0 then
    some zero
  else
    match decimal.exponent with
    | .ofNat power =>
        if 400 < power then
          none
        else
          nearest?
            (decimal.coefficient * Nat.pow 10 power * unitsPerOne) 1
    | .negSucc places =>
        if decimal.coefficient.log2 + 400 < places then
          some zero
        else
          nearest? (decimal.coefficient * unitsPerOne)
            (Nat.pow 10 (places + 1))

/-- Whether a decimal is read as the magnitude. -/
def isReadFrom (magnitude : Magnitude) (decimal : Decimal) : Bool :=
  ofDecimal? decimal = some magnitude

@[simp]
theorem units_zero : zero.units = 0 := by
  simp [zero, units]

theorem isReadFrom_iff {magnitude : Magnitude} {decimal : Decimal} :
    magnitude.isReadFrom decimal = true ↔
      ofDecimal? decimal = some magnitude :=
  decide_eq_true_iff

/-- Only zero has no units. -/
theorem units_eq_zero_iff {magnitude : Magnitude} :
    magnitude.units = 0 ↔ magnitude = zero := by
  constructor
  · intro noUnits
    obtain ⟨significand, scale, canonical⟩ := magnitude
    have positive : 0 < Nat.pow 2 scale := Nat.two_pow_pos scale
    have empty : significand = 0 := by
      rcases Nat.mul_eq_zero.1 noUnits with empty | absurdity
      · exact empty
      · exact absurd absurdity (by dsimp only; omega)
    subst empty
    have flat : scale = 0 := by
      rcases canonical.2.2 with flat | large
      · exact flat
      · exact absurd large (by decide)
    subst flat
    rfl
  · rintro rfl
    exact units_zero

end Magnitude

end DocCheck
