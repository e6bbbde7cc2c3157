import DocCheck.Number.Basic

/-!
# Numeric literals

A literal is an optional sign, decimal digits with an optional point and at
least one digit, and an optional exponent with an optional sign of its own
and at least one digit.  Only the ASCII digits count.
-/

namespace DocCheck

/-- Whether a sign stands before a text, true for minus, and the text after
it. -/
def splitSign : List Char → Bool × List Char
  | '-' :: rest => (true, rest)
  | '+' :: rest => (false, rest)
  | text => (false, text)

/-- The longest run of digits at the front of a text and what follows it. -/
def splitDigits (text : List Char) : List Char × List Char :=
  (text.takeWhile Char.isDigit, text.dropWhile Char.isDigit)

/-- The digits after a point, when one stands next, and what follows. -/
def splitFraction : List Char → List Char × List Char
  | '.' :: rest => splitDigits rest
  | text => ([], text)

/-- An integer with an optional sign and at least one digit. -/
def readInteger? (text : List Char) : Option Int :=
  let (negative, digits) := splitSign text
  if digits.isEmpty || !digits.all Char.isDigit then
    none
  else if negative then
    some (-(valueOfDigits digits : Int))
  else
    some (valueOfDigits digits)

/-- The power of ten that ends a literal: zero when nothing stands there. -/
def readExponent? : List Char → Option Int
  | [] => some 0
  | 'e' :: rest => readInteger? rest
  | 'E' :: rest => readInteger? rest
  | _ => none

/-- The decimal that an unsigned literal writes. -/
def readDecimal? (text : List Char) : Option Decimal :=
  let (whole, afterWhole) := splitDigits text
  let (fraction, rest) := splitFraction afterWhole
  if whole.isEmpty && fraction.isEmpty then
    none
  else
    (readExponent? rest).map fun exponent =>
      ⟨valueOfDigits (whole ++ fraction), exponent - fraction.length⟩

namespace Number

/-- The number that a literal writes, rounded to the nearest one. -/
def ofLiteral? (text : List Char) : Option Number :=
  let (negative, unsigned) := splitSign text
  (readDecimal? unsigned).map fun decimal =>
    ofMagnitude? negative (Magnitude.ofDecimal? decimal)

/-- The finite number that a literal writes. -/
def finiteOfLiteral? (text : List Char) : Option Number :=
  (ofLiteral? text).filter isFinite

/-- The number that a literal or one of the words for infinity and
not-a-number writes.  The words are read in any case and with any sign. -/
def ofText? (text : List Char) : Option Number :=
  let (negative, unsigned) := splitSign text
  match String.ofList (unsigned.map Char.toLower) with
  | "inf" => some (infinite negative)
  | "infinity" => some (infinite negative)
  | "nan" => some nan
  | _ => ofLiteral? text

end Number

end DocCheck
