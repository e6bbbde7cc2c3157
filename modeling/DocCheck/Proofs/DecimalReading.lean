import DocCheck.Proofs.NearestMagnitude

/-!
# The magnitude of a decimal

A decimal stands for a rational number, and that number alone decides which
magnitude the decimal is read as: the one it is rounded to correctly, as long
as it is below the limit.  The decimals that are too large or too small to be
expanded are no exception.
-/

namespace DocCheck

namespace Decimal

/-- The decimal as a rational number. -/
def size (decimal : Decimal) : ℚ :=
  decimal.coefficient * 10 ^ decimal.exponent

theorem size_nonneg (decimal : Decimal) : 0 ≤ decimal.size :=
  mul_nonneg (Nat.cast_nonneg _) (zpow_nonneg (by norm_num) _)

theorem size_ofNat (coefficient power : Nat) :
    size ⟨coefficient, .ofNat power⟩ = coefficient * 10 ^ power := by
  rw [size, Int.ofNat_eq_natCast, zpow_natCast]

theorem size_negSucc (coefficient places : Nat) :
    size ⟨coefficient, .negSucc places⟩ =
      coefficient / 10 ^ (places + 1) := by
  rw [size, zpow_negSucc, div_eq_mul_inv]

end Decimal

namespace Magnitude

/-! ## Decimals that are not expanded -/

theorem limit_pos : 0 < limit :=
  sub_pos.mpr (pow_lt_pow_right₀ one_lt_two (by omega))

theorem half_unit_lt_limit : (1 : ℚ) / 2 ^ 1074 / 2 < limit := by
  have unit : (1 : ℚ) / 2 ^ 1074 ≤ 1 :=
    div_le_one_of_le₀ (one_le_pow₀ one_le_two) (by positivity)
  have power : (2 : ℚ) ^ 970 * 2 ≤ 2 ^ 1024 := by
    rw [← pow_succ]
    exact pow_le_pow_right₀ one_le_two (by omega)
  have one : (1 : ℚ) ≤ 2 ^ 970 := one_le_pow₀ one_le_two
  unfold limit
  generalize (2 : ℚ) ^ 970 = small at *
  generalize (2 : ℚ) ^ 1024 = large at *
  generalize (1 : ℚ) / 2 ^ 1074 = smallest at *
  linarith only [unit, power, one]

theorem limit_lt : limit < 2 ^ 1024 :=
  sub_lt_self _ (pow_pos two_pos _)

/-- A power of ten is greater than the power of two with three times its
exponent. -/
theorem two_pow_le_ten_pow (exponent : Nat) :
    (2 : ℚ) ^ (3 * exponent) ≤ 10 ^ exponent := by
  rw [pow_mul]
  exact pow_le_pow_left₀ (by positivity) (by norm_num) exponent

theorem limit_lt_of_large {coefficient power : Nat}
    (nonzero : coefficient ≠ 0) (large : 400 < power) :
    limit < coefficient * 10 ^ power := by
  have one : (1 : ℚ) ≤ coefficient := by
    exact_mod_cast Nat.one_le_iff_ne_zero.mpr nonzero
  calc
    limit < 2 ^ 1024 := limit_lt
    _ ≤ 2 ^ (3 * power) := pow_le_pow_right₀ one_le_two (by omega)
    _ ≤ 10 ^ power := two_pow_le_ten_pow power
    _ ≤ coefficient * 10 ^ power :=
      le_mul_of_one_le_left (by positivity) one

theorem lt_half_unit_of_small {coefficient places : Nat}
    (small : coefficient.log2 + 400 < places) :
    (coefficient : ℚ) / 10 ^ (places + 1) < 1 / 2 ^ 1074 / 2 := by
  have below : (coefficient : ℚ) < 2 ^ (coefficient.log2 + 1) := by
    exact_mod_cast Nat.lt_log2_self
  have positive : (0 : ℚ) < 2 ^ (coefficient.log2 + 1) := pow_pos two_pos _
  calc
    (coefficient : ℚ) / 10 ^ (places + 1) ≤
        coefficient / 2 ^ (3 * (places + 1)) :=
      div_le_div_of_nonneg_left (Nat.cast_nonneg _) (pow_pos two_pos _)
        (two_pow_le_ten_pow _)
    _ < 2 ^ (coefficient.log2 + 1) / 2 ^ (3 * (places + 1)) :=
      div_lt_div_of_pos_right below (pow_pos two_pos _)
    _ ≤ 2 ^ (coefficient.log2 + 1) / 2 ^ (coefficient.log2 + 1 + 1075) :=
      div_le_div_of_nonneg_left positive.le (pow_pos two_pos _)
        (pow_le_pow_right₀ one_le_two (by omega))
    _ = 1 / 2 ^ 1075 := by
      rw [pow_add _ (coefficient.log2 + 1), div_mul_eq_div_div,
        div_self positive.ne']
    _ = 1 / 2 ^ 1074 / 2 := by rw [pow_succ, div_mul_eq_div_div]

theorem size_zero : zero.size = 0 := by
  rw [size, units_zero, Nat.cast_zero, zero_div]

/-- The smallest magnitude above zero is one unit. -/
theorem one_unit_le_size {magnitude : Magnitude}
    (nonzero : magnitude ≠ zero) : 1 / 2 ^ 1074 ≤ magnitude.size := by
  have positive : (1 : ℚ) ≤ magnitude.units := by
    exact_mod_cast Nat.one_le_iff_ne_zero.mpr
      (mt units_eq_zero_iff.mp nonzero)
  exact div_le_div_of_nonneg_right positive (pow_pos two_pos _).le

/-- A number below half a unit is rounded to zero. -/
theorem rounds_zero {exact : ℚ} (nonnegative : 0 ≤ exact)
    (small : exact ≤ 1 / 2 ^ 1074 / 2) : zero.Rounds exact := by
  refine ⟨fun other => ?_, fun _ _ _ => rfl⟩
  by_cases same : other = zero
  · rw [same]
  · have large := one_unit_le_size same
    generalize (1 : ℚ) / 2 ^ 1074 = unit at small large
    rw [size_zero, sub_zero, abs_of_nonneg nonnegative, abs_sub_comm]
    exact le_abs.mpr (.inl (by linarith only [large, small]))

/-! ## Reading a decimal -/

section Reading

variable {exact : ℚ} {magnitude candidate : Magnitude}

theorem some_eq_some_iff_rounds (inRange : exact < limit)
    (rounds : candidate.Rounds exact) :
    some candidate = some magnitude ↔
      exact < limit ∧ magnitude.Rounds exact := by
  rw [Option.some_inj]
  constructor
  · rintro rfl
    exact ⟨inRange, rounds⟩
  · exact fun given => rounds.unique given.2

theorem none_eq_some_iff_rounds (outOfRange : limit < exact) :
    none = some magnitude ↔ exact < limit ∧ magnitude.Rounds exact :=
  iff_of_false (Option.some_ne_none _).symm
    fun given => absurd given.1 outOfRange.not_gt

end Reading

theorem cast_pow_eq (base exponent : Nat) :
    (Nat.pow base exponent : ℚ) = base ^ exponent :=
  Nat.cast_pow base exponent

theorem cast_unitsPerOne : (unitsPerOne : ℚ) = 2 ^ 1074 := by
  unfold unitsPerOne
  generalize 1074 = exponent
  exact cast_pow_eq 2 exponent

theorem nearest?_whole_eq_some_iff {coefficient power : Nat}
    {magnitude : Magnitude} :
    nearest? (coefficient * Nat.pow 10 power * unitsPerOne) 1 =
        some magnitude ↔
      (coefficient : ℚ) * 10 ^ power < limit ∧
        magnitude.Rounds (coefficient * 10 ^ power) := by
  have unit : (2 : ℚ) ^ 1074 ≠ 0 := (pow_pos two_pos _).ne'
  rw [nearest?_eq_some_iff Nat.one_pos, Nat.cast_one, div_one, Nat.cast_mul,
    cast_unitsPerOne, mul_div_cancel_right₀ _ unit, Nat.cast_mul,
    cast_pow_eq, Nat.cast_ofNat]

theorem nearest?_fraction_eq_some_iff {coefficient places : Nat}
    {magnitude : Magnitude} :
    nearest? (coefficient * unitsPerOne) (Nat.pow 10 places) =
        some magnitude ↔
      (coefficient : ℚ) / 10 ^ places < limit ∧
        magnitude.Rounds (coefficient / 10 ^ places) := by
  have unit : (2 : ℚ) ^ 1074 ≠ 0 := (pow_pos two_pos _).ne'
  have positive : 0 < Nat.pow 10 places := Nat.pow_pos (by omega)
  rw [nearest?_eq_some_iff positive, Nat.cast_mul, cast_unitsPerOne,
    div_right_comm, mul_div_cancel_right₀ _ unit, cast_pow_eq,
    Nat.cast_ofNat]

/-- A decimal is read as the magnitude that it is rounded to, or as none if
it reaches the limit. -/
theorem ofDecimal?_eq_some_iff {decimal : Decimal} {magnitude : Magnitude} :
    ofDecimal? decimal = some magnitude ↔
      decimal.size < limit ∧ magnitude.Rounds decimal.size := by
  obtain ⟨coefficient, exponent⟩ := decimal
  rw [ofDecimal?]
  split
  · next isZero =>
      have noSize : Decimal.size ⟨coefficient, exponent⟩ = 0 := by
        rw [Decimal.size, isZero, Nat.cast_zero, zero_mul]
      rw [noSize]
      exact some_eq_some_iff_rounds limit_pos
        (rounds_zero le_rfl (by positivity))
  · next nonzero =>
      cases exponent with
      | ofNat power =>
          dsimp only
          rw [Decimal.size_ofNat]
          split
          · next large =>
              exact none_eq_some_iff_rounds
                (limit_lt_of_large nonzero large)
          · exact nearest?_whole_eq_some_iff
      | negSucc places =>
          dsimp only
          rw [Decimal.size_negSucc]
          split
          · next small =>
              have tiny := lt_half_unit_of_small small
              exact some_eq_some_iff_rounds (tiny.trans half_unit_lt_limit)
                (rounds_zero (by positivity) tiny.le)
          · exact nearest?_fraction_eq_some_iff

end Magnitude

end DocCheck
