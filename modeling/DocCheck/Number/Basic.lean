import DocCheck.Number.Magnitude

/-!
# Numbers

The numbers of the 64-bit binary floating-point format: not-a-number, the two
infinities, and the finite numbers, zero among them with either sign.

Numbers compare as the format lays down: not-a-number differs from
everything, itself included, and the two zeros are equal.
-/

namespace DocCheck

inductive Number where
  | nan
  | infinite (negative : Bool)
  | finite (negative : Bool) (magnitude : Magnitude)

namespace Number

/-- Positive zero. -/
def zero : Number :=
  finite false Magnitude.zero

def isFinite : Number → Bool
  | finite _ _ => true
  | _ => false

def isNaN : Number → Bool
  | nan => true
  | _ => false

/-- Equality of the floating-point format. -/
def beq : Number → Number → Bool
  | infinite leftSign, infinite rightSign => leftSign == rightSign
  | finite leftSign left, finite rightSign right =>
      left = right && (leftSign == rightSign || left = Magnitude.zero)
  | _, _ => false

instance : BEq Number :=
  ⟨beq⟩

/-- A finite number from a magnitude that may be too large for one, with an
infinity in that case. -/
def ofMagnitude? (negative : Bool) : Option Magnitude → Number
  | some magnitude => finite negative magnitude
  | none => infinite negative

/-- A finite number as a signed number of units of `2 ^ -1074`. -/
def signedUnits (negative : Bool) (magnitude : Magnitude) : Int :=
  if negative then -magnitude.units else magnitude.units

/-- The sum of two numbers, computed exactly and then rounded.  A sum of
opposite numbers is positive zero. -/
def add : Number → Number → Number
  | finite leftSign left, finite rightSign right =>
      let total := signedUnits leftSign left + signedUnits rightSign right
      if total = 0 then
        finite (leftSign && rightSign) Magnitude.zero
      else
        ofMagnitude? (total < 0) (Magnitude.nearest? total.natAbs 1)
  | finite _ _, infinite sign => infinite sign
  | infinite sign, finite _ _ => infinite sign
  | infinite leftSign, infinite rightSign =>
      if leftSign = rightSign then infinite leftSign else nan
  | nan, _ => nan
  | _, nan => nan

instance : Add Number :=
  ⟨add⟩

theorem beq_def (left right : Number) :
    (left == right) = beq left right :=
  rfl

/-- A number equals itself exactly when it is a number at all. -/
theorem beq_self (number : Number) :
    (number == number) = !number.isNaN := by
  cases number <;> simp [beq_def, beq, isNaN]

theorem beq_comm (left right : Number) :
    (left == right) = (right == left) := by
  cases left <;> cases right <;> simp only [beq_def, beq]
  case infinite.infinite leftSign rightSign =>
    exact BEq.comm
  case finite.finite leftSign left rightSign right =>
    by_cases same : left = right
    · subst same
      rw [@BEq.comm _ _ _ leftSign rightSign]
    · simp [same, Ne.symm same]

end Number

end DocCheck
