import DocCheck.Number.Magnitude

/-!
# Shortest decimals

The shortest decimal of a magnitude has the fewest digits among the decimals
that are read as the magnitude, and it is the nearest of those with as many
digits; a tie goes to the larger one.

A decimal grid consists of the multiples of a power of ten.  When some point
of a grid is read as the magnitude, so is one of the two points around the
magnitude, so only these are tried, on finer and finer grids.  Seventeen
digits always suffice; the exact expansion stands behind the search.
-/

namespace DocCheck.Magnitude

/-- The magnitude divided by a power of ten, as numerator and
denominator. -/
def overPowerOfTen (magnitude : Magnitude) : Int → Nat × Nat
  | .ofNat power => (magnitude.units, unitsPerOne * Nat.pow 10 power)
  | .negSucc places =>
      (magnitude.units * Nat.pow 10 (places + 1), unitsPerOne)

/-- The decimal of one grid that is read as the magnitude, the nearer one of
two. -/
def onGrid? (magnitude : Magnitude) (exponent : Int) : Option Decimal :=
  let quotient := magnitude.overPowerOfTen exponent
  let below : Decimal := ⟨quotient.1 / quotient.2, exponent⟩
  let above : Decimal := ⟨quotient.1 / quotient.2 + 1, exponent⟩
  match magnitude.isReadFrom below, magnitude.isReadFrom above with
  | true, true =>
      if 2 * (quotient.1 % quotient.2) < quotient.2 then
        some below
      else
        some above
  | true, false => some below
  | false, true => some above
  | false, false => none

/-- The exponent of the least power of ten above a nonzero magnitude. -/
def order (magnitude : Magnitude) : Int :=
  let scaled := magnitude.units * Nat.pow 10 400 / unitsPerOne
  (digitsOf scaled).length - 400

/-- The decimal with every digit of the magnitude:
`units * 2 ^ -1074 = units * 5 ^ 1074 * 10 ^ -1074`. -/
def expansion (magnitude : Magnitude) : Decimal :=
  ⟨magnitude.units * Nat.pow 5 1074, -1074⟩

/-- The shortest decimal that is read as the magnitude. -/
def shortest (magnitude : Magnitude) : Decimal :=
  if magnitude = zero then
    ⟨0, 0⟩
  else
    let found := (List.range 18).findSome? fun (digits : Nat) =>
      magnitude.onGrid? (magnitude.order - digits)
    found.getD magnitude.expansion

/-- A decimal found on a grid is read as the magnitude. -/
theorem ofDecimal?_of_onGrid? {magnitude : Magnitude} {exponent : Int}
    {decimal : Decimal}
    (found : magnitude.onGrid? exponent = some decimal) :
    ofDecimal? decimal = some magnitude := by
  unfold onGrid? at found
  simp only at found
  split at found
  · next below above =>
      split at found <;> cases found
      · exact isReadFrom_iff.1 below
      · exact isReadFrom_iff.1 above
  · next below _ =>
      cases found
      exact isReadFrom_iff.1 below
  · next _ above =>
      cases found
      exact isReadFrom_iff.1 above
  · cases found

end DocCheck.Magnitude
