/-!
# Decimals

A decimal is a natural coefficient times a power of ten.  Its digits can be
written in positional notation or with an exponent.
-/

namespace DocCheck

/-- The number `coefficient * 10 ^ exponent`. -/
structure Decimal where
  coefficient : Nat
  exponent : Int
deriving DecidableEq, Repr

/-- The value of a list of decimal digits. -/
def valueOfDigits (digits : List Char) : Nat :=
  digits.foldl (fun value digit => 10 * value + (digit.toNat - 48)) 0

/-- The decimal digits of a number, the most significant one first. -/
def digitsOf (number : Nat) : List Char :=
  Nat.toDigits 10 number

/-- Digits with a point before the last `places` of them, and at least one
digit before the point. -/
def pointed (digits : List Char) (places : Nat) : List Char :=
  let padded :=
    List.replicate (places + 1 - digits.length) '0' ++ digits
  let whole := padded.length - places
  padded.take whole ++ '.' :: padded.drop whole

namespace Decimal

/-- Positional notation: a whole number has no point. -/
def positional (decimal : Decimal) : List Char :=
  match decimal.exponent with
  | .ofNat zeros =>
      digitsOf decimal.coefficient ++ List.replicate zeros '0'
  | .negSucc places => pointed (digitsOf decimal.coefficient) (places + 1)

/-- Positional notation in which a whole number has one place after the
point. -/
def positionalPointed (decimal : Decimal) : List Char :=
  match decimal.exponent with
  | .ofNat _ => decimal.positional ++ ['.', '0']
  | .negSucc _ => decimal.positional

/-- The power of ten just above the decimal: a coefficient with `n` digits
is below `10 ^ n`. -/
def order (decimal : Decimal) : Int :=
  (digitsOf decimal.coefficient).length + decimal.exponent

/-- Notation with one digit before the point and a power of ten. -/
def scientific (decimal : Decimal) : List Char :=
  let exponent := (toString (decimal.order - 1)).toList
  match digitsOf decimal.coefficient with
  | first :: second :: others =>
      first :: '.' :: second :: (others ++ 'e' :: exponent)
  | digits => digits ++ 'e' :: exponent

end Decimal

end DocCheck
