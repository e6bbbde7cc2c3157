import DocCheck.Number.Basic
import DocCheck.Number.Shortest

/-!
# Written numbers

Numbers are written by their shortest decimals.  For display the notation is
always positional and a whole number has no point.  For inspection a whole
number keeps one place after the point, and magnitudes from `10 ^ 16` on and
nonzero ones below `10 ^ -4` have an exponent.
-/

namespace DocCheck.Number

/-- A sign for negative numbers before the text of a magnitude. -/
def signed (negative : Bool) (text : List Char) : List Char :=
  if negative then '-' :: text else text

/-- A number for display. -/
def written : Number → List Char
  | nan => ['N', 'a', 'N']
  | infinite negative => signed negative ['i', 'n', 'f']
  | finite negative magnitude =>
      signed negative magnitude.shortest.positional

/-- A number for inspection. -/
def inspected : Number → List Char
  | nan => ['N', 'a', 'N']
  | infinite negative => signed negative ['i', 'n', 'f']
  | finite negative magnitude =>
      let decimal := magnitude.shortest
      let moderate := -3 ≤ decimal.order ∧ decimal.order ≤ 16
      signed negative <|
        if decimal.coefficient = 0 ∨ moderate then
          decimal.positionalPointed
        else
          decimal.scientific

instance : ToString Number :=
  ⟨fun number => String.ofList number.written⟩

end DocCheck.Number
