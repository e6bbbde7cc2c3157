import DocCheck.Number.Literal
import DocCheck.Proofs.DecimalReading
import DocCheck.Proofs.Tokens
import Mathlib.Data.Nat.Digits.Defs
import Mathlib.Tactic.Ring

/-!
# Numerals

The grammar of the decimal numerals and the rational numbers that they write.
A numeral is told apart from other texts, and its number is found, by reading
from left to right.
-/

namespace DocCheck

/-! ## Signs -/

/-- What stands in front of a number. -/
inductive Sign where
  | absent
  | plus
  | minus

namespace Sign

def text : Sign → List Char
  | absent => []
  | plus => ['+']
  | minus => ['-']

def isMinus : Sign → Bool
  | minus => true
  | _ => false

theorem exists_splitSign (text : List Char) :
    ∃ sign : Sign, text = sign.text ++ (splitSign text).2 ∧
      sign.isMinus = (splitSign text).1 := by
  unfold splitSign
  split
  · exact ⟨minus, rfl, rfl⟩
  · exact ⟨plus, rfl, rfl⟩
  · exact ⟨absent, rfl, rfl⟩

theorem splitSign_append (sign : Sign) {rest : List Char}
    (unsigned : ∀ c ∈ rest.head?, c ≠ '-' ∧ c ≠ '+') :
    splitSign (sign.text ++ rest) = (sign.isMinus, rest) := by
  cases sign with
  | plus => rfl
  | minus => rfl
  | absent =>
      show splitSign rest = (false, rest)
      unfold splitSign
      split
      · exact absurd rfl (unsigned _ rfl).1
      · exact absurd rfl (unsigned _ rfl).2
      · rfl

end Sign

/-! ## Digits -/

/-- The number that a list of digits writes in positional notation. -/
def writtenValue (digits : List Char) : Nat :=
  Nat.ofDigits 10 (digits.reverse.map fun digit => digit.toNat - '0'.toNat)

theorem valueOfDigits_eq (digits : List Char) :
    valueOfDigits digits = writtenValue digits := by
  unfold writtenValue valueOfDigits
  induction digits using List.reverseRecOn with
  | nil => rfl
  | append_singleton front digit inductionHypothesis =>
      rw [List.foldl_append, List.foldl_cons, List.foldl_nil,
        inductionHypothesis, List.reverse_concat, List.map_cons,
        Nat.ofDigits_cons, Nat.add_comm]
      rfl

theorem valueOfDigits_append (front back : List Char) :
    valueOfDigits (front ++ back) =
      valueOfDigits front * 10 ^ back.length + valueOfDigits back := by
  rw [valueOfDigits_eq, valueOfDigits_eq, valueOfDigits_eq, writtenValue,
    List.reverse_append, List.map_append, Nat.ofDigits_append,
    List.length_map, List.length_reverse]
  exact (Nat.add_comm _ _).trans (congrArg (· + _) (Nat.mul_comm _ _))

theorem isDigit_of_digits {digits : List Char}
    (areDigits : ∀ c ∈ digits, IsDigit c) :
    ∀ c ∈ digits, c.isDigit = true :=
  fun c member => isDigit_iff.mpr (areDigits c member)

theorem not_sign_of_isDigit {c : Char} (digit : IsDigit c) :
    c ≠ '-' ∧ c ≠ '+' := by
  rw [← isDigit_iff] at digit
  constructor
  · rintro rfl
    cases digit
  · rintro rfl
    cases digit

/-! ## Exponents -/

/-- The power of ten at the end of a numeral. -/
structure Power where
  marker : Char
  sign : Sign
  digits : List Char
  isMarker : marker = 'e' ∨ marker = 'E'
  areDigits : ∀ c ∈ digits, IsDigit c
  nonempty : digits ≠ []

namespace Power

def text (power : Power) : List Char :=
  power.marker :: (power.sign.text ++ power.digits)

def exponent (power : Power) : Int :=
  if power.sign.isMinus then
    -(writtenValue power.digits : Int)
  else
    writtenValue power.digits

theorem readInteger?_text (power : Power) :
    readInteger? (power.sign.text ++ power.digits) = some power.exponent := by
  have split : splitSign (power.sign.text ++ power.digits) =
      (power.sign.isMinus, power.digits) := by
    apply Sign.splitSign_append
    intro c atHead
    exact not_sign_of_isDigit
      (power.areDigits c (List.mem_of_mem_head? atHead))
  have nonempty : power.digits.isEmpty = false :=
    List.isEmpty_eq_false_iff.mpr power.nonempty
  have digits : power.digits.all Char.isDigit = true :=
    List.all_eq_true.mpr (isDigit_of_digits power.areDigits)
  unfold readInteger? exponent
  rw [split]
  dsimp only
  rw [nonempty, digits, valueOfDigits_eq]
  cases power.sign.isMinus <;> rfl

theorem exists_of_readInteger? {marker : Char} {text : List Char}
    {exponent : Int} (isMarker : marker = 'e' ∨ marker = 'E')
    (read : readInteger? text = some exponent) :
    ∃ power : Power, power.text = marker :: text ∧
      power.exponent = exponent := by
  obtain ⟨sign, split, isMinus⟩ := Sign.exists_splitSign text
  unfold readInteger? at read
  dsimp only at read
  split at read
  · cases read
  · next isInteger =>
      simp only [Bool.or_eq_true, List.isEmpty_iff, Bool.not_eq_true',
        not_or, Bool.not_eq_false, List.all_eq_true] at isInteger
      refine ⟨⟨marker, sign, (splitSign text).2, isMarker,
        fun c member => isDigit_iff.mp (isInteger.2 c member),
        isInteger.1⟩, congrArg (marker :: ·) split.symm, ?_⟩
      unfold Power.exponent
      dsimp only
      rw [isMinus, ← valueOfDigits_eq]
      split at read
      · next negative =>
          rw [if_pos negative]
          exact Option.some.inj read
      · next notNegative =>
          rw [if_neg notNegative]
          exact Option.some.inj read

end Power

/-- The text of an exponent, where there is one. -/
def powerText (power? : Option Power) : List Char :=
  (power?.map Power.text).getD []

/-- The exponent, or zero where there is none. -/
def powerExponent (power? : Option Power) : Int :=
  (power?.map Power.exponent).getD 0

theorem readExponent?_eq_some_iff {text : List Char} {exponent : Int} :
    readExponent? text = some exponent ↔
      ∃ power? : Option Power, powerText power? = text ∧
        powerExponent power? = exponent := by
  constructor
  · intro read
    unfold readExponent? at read
    split at read
    · exact ⟨none, rfl, Option.some.inj read⟩
    · obtain ⟨power, spelled, value⟩ :=
        Power.exists_of_readInteger? (.inl rfl) read
      exact ⟨some power, spelled, value⟩
    · obtain ⟨power, spelled, value⟩ :=
        Power.exists_of_readInteger? (.inr rfl) read
      exact ⟨some power, spelled, value⟩
    · cases read
  · rintro ⟨power?, rfl, rfl⟩
    cases power? with
    | none => rfl
    | some power =>
        have read := power.readInteger?_text
        show readExponent? (power.marker :: _) = some power.exponent
        rcases power.isMarker with marker | marker <;>
          rw [marker] <;> exact read

/-! ## Numerals -/

/-- A decimal numeral without a sign: digits, perhaps a point and more
digits, and perhaps an exponent.  There is a digit before the point or after
it. -/
structure Numeral where
  whole : List Char
  fraction? : Option (List Char)
  power? : Option Power
  wholeDigits : ∀ c ∈ whole, IsDigit c
  fractionDigits : ∀ c ∈ fraction?.getD [], IsDigit c
  nonempty : whole ≠ [] ∨ fraction?.getD [] ≠ []

namespace Numeral

variable (numeral : Numeral)

/-- The digits after the point. -/
def fraction : List Char :=
  numeral.fraction?.getD []

/-- The text of a point and the digits after it, where there is a point. -/
def fractionText : List Char :=
  (numeral.fraction?.map ('.' :: ·)).getD []

def text : List Char :=
  numeral.whole ++ (numeral.fractionText ++ powerText numeral.power?)

/-- The number that a numeral writes. -/
def size : ℚ :=
  (writtenValue numeral.whole +
      writtenValue numeral.fraction / 10 ^ numeral.fraction.length) *
    10 ^ powerExponent numeral.power?

/-- The decimal with all digits of the numeral before its power of ten. -/
def decimal : Decimal :=
  ⟨valueOfDigits (numeral.whole ++ numeral.fraction),
    powerExponent numeral.power? - numeral.fraction.length⟩

theorem size_decimal : numeral.decimal.size = numeral.size := by
  have ten : (10 : ℚ) ≠ 0 := by norm_num
  unfold Decimal.size decimal size
  rw [valueOfDigits_append, valueOfDigits_eq, valueOfDigits_eq,
    zpow_sub₀ ten, zpow_natCast]
  push_cast
  field_simp

theorem size_nonneg : 0 ≤ numeral.size := by
  rw [← numeral.size_decimal]
  exact numeral.decimal.size_nonneg

/-- Digits end where the next character is no digit. -/
theorem splitDigits_append {digits rest : List Char}
    (areDigits : ∀ c ∈ digits, IsDigit c)
    (boundary : ∀ c ∈ rest.head?, c.isDigit = false) :
    splitDigits (digits ++ rest) = (digits, rest) := by
  have inside := isDigit_of_digits areDigits
  rw [splitDigits, takeWhile_append_of_boundary inside boundary,
    dropWhile_append_of_boundary inside boundary]

theorem isDigit_of_splitDigits (text : List Char) :
    ∀ c ∈ (splitDigits text).1, IsDigit c :=
  fun _ member => isDigit_iff.mp (List.mem_takeWhile_imp member)

theorem head_powerText {power? : Option Power} :
    ∀ c ∈ (powerText power?).head?, c.isDigit = false ∧ c ≠ '.' := by
  intro c atHead
  cases power? with
  | none => cases atHead
  | some power =>
      obtain rfl : power.marker = c := Option.some.inj atHead
      rcases power.isMarker with marker | marker <;>
        rw [marker] <;> decide

theorem splitFraction_append :
    splitFraction (numeral.fractionText ++ powerText numeral.power?) =
      (numeral.fraction, powerText numeral.power?) := by
  unfold fraction fractionText
  have areDigits := numeral.fractionDigits
  generalize numeral.fraction? = fraction? at areDigits
  cases fraction? with
  | some digits =>
      show splitDigits (digits ++ powerText numeral.power?) = _
      exact splitDigits_append areDigits fun c atHead =>
        (head_powerText c atHead).1
  | none =>
      show splitFraction (powerText numeral.power?) = _
      unfold splitFraction
      split
      · next same =>
          have atHead : (powerText numeral.power?).head? = some '.' := by
            rw [same, List.head?_cons]
          exact absurd rfl (head_powerText '.' atHead).2
      · rfl

theorem head_fractionText_append :
    ∀ c ∈ (numeral.fractionText ++ powerText numeral.power?).head?,
      c.isDigit = false := by
  intro c atHead
  unfold fractionText at atHead
  generalize numeral.fraction? = fraction? at atHead
  cases fraction? with
  | some digits =>
      obtain rfl : '.' = c := Option.some.inj atHead
      rfl
  | none => exact (head_powerText c atHead).1

/-- A numeral is read as the decimal with its digits. -/
theorem readDecimal?_text :
    readDecimal? numeral.text = some numeral.decimal := by
  have whole : splitDigits numeral.text =
      (numeral.whole, numeral.fractionText ++ powerText numeral.power?) :=
    splitDigits_append numeral.wholeDigits numeral.head_fractionText_append
  have power : readExponent? (powerText numeral.power?) =
      some (powerExponent numeral.power?) :=
    readExponent?_eq_some_iff.mpr ⟨numeral.power?, rfl, rfl⟩
  have digits : ¬ (numeral.whole.isEmpty && numeral.fraction.isEmpty) := by
    rw [Bool.and_eq_true, List.isEmpty_iff, List.isEmpty_iff, not_and_or]
    exact numeral.nonempty
  unfold readDecimal?
  rw [whole]
  dsimp only
  rw [splitFraction_append]
  dsimp only
  rw [if_neg digits, power]
  rfl

theorem exists_splitFraction (text : List Char) :
    ∃ fraction? : Option (List Char),
      (splitFraction text).1 = fraction?.getD [] ∧
      (∀ c ∈ fraction?.getD [], IsDigit c) ∧
      text = (fraction?.map ('.' :: ·)).getD [] ++ (splitFraction text).2 := by
  unfold splitFraction
  split
  · next rest =>
      exact ⟨some (splitDigits rest).1, rfl, isDigit_of_splitDigits rest,
        congrArg ('.' :: ·) List.takeWhile_append_dropWhile.symm⟩
  · exact ⟨none, rfl, fun _ member => absurd member List.not_mem_nil, rfl⟩

/-- Only numerals are read as decimals. -/
theorem exists_of_readDecimal? {text : List Char} {decimal : Decimal}
    (read : readDecimal? text = some decimal) :
    ∃ numeral : Numeral, numeral.text = text ∧
      numeral.decimal = decimal := by
  obtain ⟨fraction?, fraction, fractionDigits, spelled⟩ :=
    exists_splitFraction (splitDigits text).2
  unfold readDecimal? at read
  dsimp only at read
  split at read
  · cases read
  · next digits =>
      rw [Bool.and_eq_true, List.isEmpty_iff, List.isEmpty_iff,
        not_and_or, fraction] at digits
      obtain ⟨exponent, power, rfl⟩ := Option.map_eq_some_iff.mp read
      obtain ⟨power?, powerSpelled, rfl⟩ :=
        readExponent?_eq_some_iff.mp power
      refine ⟨⟨(splitDigits text).1, fraction?, power?,
        isDigit_of_splitDigits text, fractionDigits, digits⟩, ?_, ?_⟩
      · show (splitDigits text).1 ++ (_ ++ powerText power?) = text
        rw [powerSpelled, fractionText, ← spelled]
        exact List.takeWhile_append_dropWhile
      · rw [fraction]
        rfl

theorem readDecimal?_eq_some_iff {text : List Char} {decimal : Decimal} :
    readDecimal? text = some decimal ↔
      ∃ numeral : Numeral, numeral.text = text ∧
        numeral.decimal = decimal := by
  constructor
  · exact exists_of_readDecimal?
  · rintro ⟨numeral, rfl, rfl⟩
    exact numeral.readDecimal?_text

end Numeral

end DocCheck
