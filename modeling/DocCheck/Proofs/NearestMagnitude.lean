import DocCheck.Proofs.Magnitudes
import Mathlib.Algebra.Order.Field.Basic
import Mathlib.Data.Nat.Cast.Order.Field
import Mathlib.Data.Rat.Cast.Order
import Mathlib.Tactic.FieldSimp
import Mathlib.Tactic.Linarith
import Mathlib.Tactic.NormNum
import Mathlib.Tactic.Positivity

/-!
# The nearest magnitude

A rational number is rounded correctly to a magnitude that is as near as any
other one, and to one with an even significand where two are equally near.
There is never more than one such magnitude.  Below the limit halfway between
the largest magnitude and the next power of two, rounding a quotient finds
it; from the limit on there is none to be found.
-/

namespace DocCheck

/-! ## Rounding to integers -/

section Quotient

variable (numerator : Nat) {denominator : Nat}

/-- A quotient is an integer and a fraction below one, and the fraction
decides which way the quotient is rounded. -/
theorem exists_fraction (positive : 0 < denominator) :
    ∃ fraction : ℚ, 0 ≤ fraction ∧ fraction < 1 ∧
      (numerator : ℚ) / denominator =
        (numerator / denominator : Nat) + fraction ∧
      (fraction < 1 / 2 ∧
          roundedQuotient numerator denominator = numerator / denominator ∨
        1 / 2 < fraction ∧
          roundedQuotient numerator denominator =
            numerator / denominator + 1 ∨
        fraction = 1 / 2 ∧
          roundedQuotient numerator denominator =
            numerator / denominator + numerator / denominator % 2) := by
  have positiveQ : (0 : ℚ) < denominator := by exact_mod_cast positive
  have whole : (numerator : ℚ) =
      denominator * (numerator / denominator : Nat) +
        (numerator % denominator : Nat) := by
    exact_mod_cast (Nat.div_add_mod numerator denominator).symm
  have below : ((numerator % denominator : Nat) : ℚ) < denominator := by
    exact_mod_cast Nat.mod_lt numerator positive
  refine ⟨(numerator % denominator : Nat) / denominator, by positivity,
    (div_lt_one positiveQ).mpr below, ?_, ?_⟩
  · rw [div_eq_iff positiveQ.ne', add_mul, div_mul_cancel₀ _ positiveQ.ne',
      mul_comm, ← whole]
  · have two : (2 : ℚ) ≠ 0 := two_ne_zero
    simp only [div_lt_div_iff₀ positiveQ two_pos,
      div_lt_div_iff₀ two_pos positiveQ, div_eq_div_iff positiveQ.ne' two,
      one_mul]
    unfold roundedQuotient
    norm_cast
    dsimp only
    split_ifs with low high
    · exact .inl ⟨by omega, rfl⟩
    · exact .inr (.inl ⟨by omega, rfl⟩)
    · exact .inr (.inr ⟨by omega, rfl⟩)

/-- A rounded quotient is within one half, and even where it is no nearer. -/
theorem abs_sub_roundedQuotient (positive : 0 < denominator) :
    |(numerator : ℚ) / denominator -
        roundedQuotient numerator denominator| ≤ 1 / 2 ∧
    (|(numerator : ℚ) / denominator -
        roundedQuotient numerator denominator| = 1 / 2 →
      roundedQuotient numerator denominator % 2 = 0) := by
  obtain ⟨fraction, nonnegative, below, split, cases⟩ :=
    exists_fraction numerator positive
  rw [split]
  rcases cases with ⟨low, rounded⟩ | ⟨high, rounded⟩ | ⟨half, rounded⟩
  · rw [rounded, add_sub_cancel_left, abs_of_nonneg nonnegative]
    exact ⟨low.le, fun tie => absurd tie low.ne⟩
  · rw [rounded, Nat.cast_succ, add_sub_add_left_eq_sub,
      abs_of_neg (by linarith)]
    exact ⟨by linarith, fun tie => absurd tie (by linarith)⟩
  · refine ⟨?_, fun _ => by omega⟩
    rw [rounded, Nat.cast_add, add_sub_add_left_eq_sub, half]
    rcases Nat.mod_two_eq_zero_or_one (numerator / denominator) with
      even | odd
    · rw [even]
      norm_num
    · rw [odd]
      norm_num

/-- No integer is nearer to a quotient than the rounded one, and where
another one is as near the rounded one is even. -/
theorem roundedQuotient_nearest (positive : 0 < denominator)
    (other : Nat) :
    |(numerator : ℚ) / denominator -
        roundedQuotient numerator denominator| ≤
      |(numerator : ℚ) / denominator - other| ∧
    (other ≠ roundedQuotient numerator denominator →
      |(numerator : ℚ) / denominator - other| =
        |(numerator : ℚ) / denominator -
          roundedQuotient numerator denominator| →
      roundedQuotient numerator denominator % 2 = 0) := by
  obtain ⟨within, even⟩ :=
    abs_sub_roundedQuotient numerator positive
  by_cases same : other = roundedQuotient numerator denominator
  · rw [same]
    exact ⟨le_rfl, fun different => absurd rfl different⟩
  · have apart : (1 : ℚ) ≤
        |(roundedQuotient numerator denominator : ℚ) - other| := by
      have distinct : (roundedQuotient numerator denominator : ℤ) - other ≠
          0 := by
        omega
      exact_mod_cast Int.one_le_abs distinct
    have triangle := abs_sub_le
      (roundedQuotient numerator denominator : ℚ)
      ((numerator : ℚ) / denominator) other
    rw [abs_sub_comm _ ((numerator : ℚ) / denominator)] at triangle
    exact ⟨by linarith, fun _ tie => even (by linarith)⟩

end Quotient

namespace Magnitude

/-! ## Correct rounding -/

/-- The magnitude as a rational number. -/
def size (magnitude : Magnitude) : ℚ :=
  magnitude.units / 2 ^ 1074

/-- The number halfway between the largest magnitude and the next power of
two. -/
def limit : ℚ :=
  2 ^ 1024 - 2 ^ 970

/-- The magnitude that a number is rounded to: no other one is nearer, and if
another one is as near, then it has an even significand. -/
structure Rounds (magnitude : Magnitude) (exact : ℚ) : Prop where
  nearest :
    ∀ other : Magnitude,
      |exact - magnitude.size| ≤ |exact - other.size|
  tieToEven :
    ∀ other : Magnitude, other ≠ magnitude →
      |exact - other.size| = |exact - magnitude.size| →
      magnitude.significand % 2 = 0

theorem abs_sub_size (exact : ℚ) (magnitude : Magnitude) :
    |exact / 2 ^ 1074 - magnitude.size| =
      |exact - magnitude.units| / 2 ^ 1074 := by
  have positive : (0 : ℚ) < 2 ^ 1074 := pow_pos two_pos _
  rw [size, ← sub_div, abs_div, abs_of_pos positive]

/-- Rounding may be told in units. -/
theorem rounds_iff {magnitude : Magnitude} {exact : ℚ} :
    magnitude.Rounds (exact / 2 ^ 1074) ↔
      (∀ other : Magnitude,
        |exact - magnitude.units| ≤ |exact - other.units|) ∧
      ∀ other : Magnitude, other ≠ magnitude →
        |exact - other.units| = |exact - magnitude.units| →
        magnitude.significand % 2 = 0 := by
  have positive : (0 : ℚ) < 2 ^ 1074 := pow_pos two_pos _
  constructor
  · intro rounds
    refine ⟨fun other => ?_, fun other different tie => ?_⟩
    · have near := rounds.nearest other
      rwa [abs_sub_size, abs_sub_size,
        div_le_div_iff_of_pos_right positive] at near
    · apply rounds.tieToEven other different
      rw [abs_sub_size, abs_sub_size, tie]
  · intro given
    refine ⟨fun other => ?_, fun other different tie => ?_⟩
    · rw [abs_sub_size, abs_sub_size, div_le_div_iff_of_pos_right positive]
      exact given.1 other
    · rw [abs_sub_size, abs_sub_size, div_left_inj' positive.ne'] at tie
      exact given.2 other different tie

/-! ## Uniqueness -/

/-- Between two magnitudes with even significands there is another one. -/
theorem exists_between {low high : Magnitude}
    (lowEven : low.significand % 2 = 0) (highEven : high.significand % 2 = 0)
    (below : low.units < high.units) :
    ∃ middle : Magnitude,
      low.units < middle.units ∧ middle.units < high.units := by
  have bound := low.significand_lt
  have canonical : CanonicalPair (low.significand + 1) low.scale := by
    refine ⟨?_, low.scale_le, low.canonical.2.2.imp_right fun large => ?_⟩
    · show low.significand + 1 < 2 ^ 53
      omega
    · exact Nat.le_succ_of_le large
  let middle : Magnitude := ⟨low.significand + 1, low.scale, canonical⟩
  have step : middle.units = low.units + 2 ^ low.scale := by
    show (low.significand + 1) * 2 ^ low.scale = _
    rw [units_eq, Nat.add_one_mul]
  have positive : 0 < 2 ^ low.scale := Nat.two_pow_pos _
  refine ⟨middle, by omega, ?_⟩
  -- The grid of the lower one goes on above it, up to the higher one.
  have onGrid : 2 ^ low.scale ∣ high.units :=
    Dvd.dvd.mul_left
      (pow_dvd_pow 2 (scale_le_of_units_le below.le)) high.significand
  have lowOnGrid : 2 ^ low.scale ∣ low.units := Nat.dvd_mul_left _ _
  have reaches : middle.units ≤ high.units := by
    rw [step]
    obtain ⟨lowCount, lowUnits⟩ := lowOnGrid
    obtain ⟨highCount, highUnits⟩ := onGrid
    rw [lowUnits, highUnits] at below ⊢
    have fewer : lowCount < highCount := Nat.lt_of_mul_lt_mul_left below
    calc
      2 ^ low.scale * lowCount + 2 ^ low.scale =
          2 ^ low.scale * (lowCount + 1) := by ring
      _ ≤ 2 ^ low.scale * highCount := Nat.mul_le_mul_left _ fewer
  refine lt_of_le_of_ne reaches fun same => ?_
  have odd : high.significand = low.significand + 1 :=
    congrArg significand (units_injective same.symm)
  omega

/-- A number is rounded to one magnitude only. -/
theorem Rounds.unique {left right : Magnitude} {exact : ℚ}
    (rounds : left.Rounds exact) (others : right.Rounds exact) :
    left = right := by
  by_contra different
  have tie : |exact - left.size| = |exact - right.size| :=
    le_antisymm (rounds.nearest right) (others.nearest left)
  have leftEven := rounds.tieToEven right (Ne.symm different) tie.symm
  have rightEven := others.tieToEven left different tie
  wlog below : left.units < right.units generalizing left right
  · refine this others rounds (Ne.symm different) tie.symm rightEven
      leftEven (lt_of_le_of_ne (not_lt.mp below) ?_)
    exact fun same => different (units_injective same.symm)
  obtain ⟨middle, above, under⟩ := exists_between leftEven rightEven below
  -- The number is halfway between the two, so what lies between is nearer.
  have positive : (0 : ℚ) < 2 ^ 1074 := pow_pos two_pos _
  have size_lt {low high : Magnitude} (less : low.units < high.units) :
      low.size < high.size :=
    (div_lt_div_iff_of_pos_right positive).mpr (by exact_mod_cast less)
  have aboveLeft := size_lt above
  have underRight := size_lt under
  have halfway : exact - left.size = -(exact - right.size) := by
    rcases abs_eq_abs.mp tie with same | opposite
    · have sameSize : left.size = right.size := sub_right_inj.mp same
      exact absurd sameSize (aboveLeft.trans underRight).ne
    · exact opposite
  have nearer : |exact - middle.size| < exact - left.size :=
    abs_lt.mpr ⟨by linarith, by linarith⟩
  have near := rounds.nearest middle
  rw [abs_of_pos (by linarith)] at near
  exact absurd near (not_le.mpr nearer)

/-! ## Rounding a quotient of units -/

/-- The scale on which a quotient of units is rounded. -/
def roundingScale (numerator denominator : Nat) : Nat :=
  (numerator / denominator).log2 - 52

/-- The significand that a quotient of units is rounded to on this scale. -/
def roundedSignificand (numerator denominator : Nat) : Nat :=
  roundedQuotient numerator
    (denominator * 2 ^ roundingScale numerator denominator)

theorem nearest?_eq (numerator denominator : Nat) :
    nearest? numerator denominator =
      if roundedSignificand numerator denominator = 2 ^ 53 then
        ofPair? (2 ^ 52) (roundingScale numerator denominator + 1)
      else
        ofPair? (roundedSignificand numerator denominator)
          (roundingScale numerator denominator) :=
  rfl

theorem ofPair?_eq_some_iff {significand scale : Nat}
    {magnitude : Magnitude} :
    ofPair? significand scale = some magnitude ↔
      magnitude.significand = significand ∧ magnitude.scale = scale := by
  obtain ⟨otherSignificand, otherScale, canonical⟩ := magnitude
  rw [ofPair?]
  split
  · simp [eq_comm]
  · next notCanonical =>
      simp only [reduceCtorEq, false_iff]
      rintro ⟨rfl, rfl⟩
      exact notCanonical canonical

section Binade

variable {numerator denominator : Nat}

theorem roundingScale_bounds (numerator denominator : Nat) :
    numerator / denominator <
        2 ^ 53 * 2 ^ roundingScale numerator denominator ∧
    (0 < roundingScale numerator denominator →
      2 ^ 52 * 2 ^ roundingScale numerator denominator ≤
        numerator / denominator) := by
  rw [← Nat.pow_add, ← Nat.pow_add]
  constructor
  · calc
      numerator / denominator < 2 ^ ((numerator / denominator).log2 + 1) :=
        Nat.lt_log2_self
      _ ≤ 2 ^ (53 + roundingScale numerator denominator) :=
        Nat.pow_le_pow_right Nat.two_pos (by rw [roundingScale]; omega)
  · intro scaled
    have exponent : 52 + roundingScale numerator denominator =
        (numerator / denominator).log2 := by
      rw [roundingScale] at scaled ⊢
      omega
    rw [exponent]
    apply Nat.log2_self_le
    intro zero
    rw [roundingScale, zero, Nat.log2_zero] at scaled
    omega

theorem grid_pos (numerator : Nat) (positive : 0 < denominator) :
    0 < denominator * 2 ^ roundingScale numerator denominator :=
  Nat.mul_pos positive (Nat.two_pow_pos _)

theorem abs_sub_roundedSignificand (numerator : Nat)
    (positive : 0 < denominator) :
    |(numerator : ℚ) /
        (denominator * 2 ^ roundingScale numerator denominator : Nat) -
      roundedSignificand numerator denominator| ≤ 1 / 2 ∧
    (|(numerator : ℚ) /
        (denominator * 2 ^ roundingScale numerator denominator : Nat) -
      roundedSignificand numerator denominator| = 1 / 2 →
      roundedSignificand numerator denominator % 2 = 0) :=
  abs_sub_roundedQuotient numerator (grid_pos numerator positive)

/-- The quotient on the grid of its scale. -/
theorem scaled_bounds (numerator : Nat) (positive : 0 < denominator) :
    let scaled : ℚ := (numerator : ℚ) /
      (denominator * 2 ^ roundingScale numerator denominator : Nat)
    scaled < 2 ^ 53 ∧
      (0 < roundingScale numerator denominator → 2 ^ 52 ≤ scaled) := by
  intro scaled
  obtain ⟨below, above⟩ := roundingScale_bounds numerator denominator
  have gridPositive : (0 : ℚ) <
      (denominator * 2 ^ roundingScale numerator denominator : Nat) := by
    exact_mod_cast grid_pos numerator positive
  constructor
  · rw [div_lt_iff₀ gridPositive]
    have whole : numerator <
        2 ^ 53 * 2 ^ roundingScale numerator denominator * denominator :=
      (Nat.div_lt_iff_lt_mul positive).mp below
    calc
      (numerator : ℚ) <
          (2 ^ 53 * 2 ^ roundingScale numerator denominator *
            denominator : Nat) := by exact_mod_cast whole
      _ = 2 ^ 53 * (denominator *
            2 ^ roundingScale numerator denominator : Nat) := by
        push_cast
        ring
  · intro isScaled
    rw [le_div_iff₀ gridPositive]
    have whole :
        2 ^ 52 * 2 ^ roundingScale numerator denominator * denominator ≤
          numerator :=
      (Nat.le_div_iff_mul_le positive).mp (above isScaled)
    calc
      (2 : ℚ) ^ 52 * (denominator *
            2 ^ roundingScale numerator denominator : Nat) =
          (2 ^ 52 * 2 ^ roundingScale numerator denominator *
            denominator : Nat) := by
        push_cast
        ring
      _ ≤ numerator := by exact_mod_cast whole

theorem roundedSignificand_bounds (numerator : Nat)
    (positive : 0 < denominator) :
    roundedSignificand numerator denominator ≤ 2 ^ 53 ∧
    (0 < roundingScale numerator denominator →
      2 ^ 52 ≤ roundedSignificand numerator denominator) := by
  obtain ⟨below, above⟩ := scaled_bounds numerator positive
  have near := abs_le.mp (abs_sub_roundedSignificand numerator positive).1
  constructor
  · by_contra greater
    have beyond : (2 : ℚ) ^ 53 + 1 ≤
        roundedSignificand numerator denominator := by
      exact_mod_cast Nat.lt_of_not_le greater
    linarith
  · intro isScaled
    by_contra smaller
    have short : (roundedSignificand numerator denominator : ℚ) + 1 ≤
        2 ^ 52 := by
      exact_mod_cast Nat.lt_of_not_le smaller
    have large := above isScaled
    linarith

/-- The distance to a point of the grid. -/
theorem abs_sub_grid (positive : 0 < denominator) (point : Nat) :
    |(numerator : ℚ) / denominator -
        (point * 2 ^ roundingScale numerator denominator : Nat)| =
      |(numerator : ℚ) /
          (denominator * 2 ^ roundingScale numerator denominator : Nat) -
        point| * 2 ^ roundingScale numerator denominator := by
  have grid : (0 : ℚ) < 2 ^ roundingScale numerator denominator :=
    pow_pos two_pos _
  have positiveQ : (denominator : ℚ) ≠ 0 := by
    exact_mod_cast positive.ne'
  rw [← abs_of_pos grid, ← abs_mul, sub_mul]
  congr 2
  · push_cast
    field_simp
  · push_cast
    ring

/-- No magnitude is nearer to a quotient of units than the rounded point of
its grid, and where another one is as near the point is even. -/
theorem abs_sub_rounded_le (positive : 0 < denominator)
    (other : Magnitude) :
    let rounded : Nat := roundedSignificand numerator denominator *
      2 ^ roundingScale numerator denominator
    |(numerator : ℚ) / denominator - rounded| ≤
      |(numerator : ℚ) / denominator - other.units| ∧
    (other.units ≠ rounded →
      |(numerator : ℚ) / denominator - other.units| =
        |(numerator : ℚ) / denominator - rounded| →
      roundedSignificand numerator denominator % 2 = 0) := by
  intro rounded
  have grid : (0 : ℚ) < 2 ^ roundingScale numerator denominator :=
    pow_pos two_pos _
  have nearest (point : Nat) :=
    roundedQuotient_nearest numerator (grid_pos numerator positive) point
  rcases Nat.lt_or_ge other.scale (roundingScale numerator denominator) with
    finer | coarser
  · -- A magnitude of a finer grid lies below the binade of the quotient.
    have start := (nearest (2 ^ 52)).1
    rw [← mul_le_mul_iff_left₀ grid, ← abs_sub_grid positive,
      ← abs_sub_grid positive] at start
    have low : (other.units : ℚ) <
        (2 ^ 52 * 2 ^ roundingScale numerator denominator : Nat) := by
      exact_mod_cast units_lt_of_scale_lt finer
    have high :
        ((2 ^ 52 * 2 ^ roundingScale numerator denominator : Nat) : ℚ) ≤
          (numerator : ℚ) / denominator := by
      have inBinade := (roundingScale_bounds numerator denominator).2
        (Nat.zero_lt_of_lt finer)
      calc
        ((2 ^ 52 * 2 ^ roundingScale numerator denominator : Nat) : ℚ) ≤
            (numerator / denominator : Nat) := by exact_mod_cast inBinade
        _ ≤ (numerator : ℚ) / denominator := Nat.cast_div_le
    rw [abs_of_nonneg (sub_nonneg.mpr high)] at start
    rw [abs_of_pos (sub_pos.mpr (low.trans_le high))]
    have strict : |(numerator : ℚ) / denominator - rounded| <
        (numerator : ℚ) / denominator - other.units :=
      start.trans_lt (sub_lt_sub_left low _)
    exact ⟨strict.le, fun _ tie => absurd tie strict.ne'⟩
  · -- All other magnitudes are points of the grid.
    obtain ⟨point, onGrid⟩ :
        ∃ point, other.units =
          point * 2 ^ roundingScale numerator denominator := by
      refine ⟨other.significand *
        2 ^ (other.scale - roundingScale numerator denominator), ?_⟩
      rw [units_eq, Nat.mul_assoc, ← Nat.pow_add,
        Nat.sub_add_cancel coarser]
    obtain ⟨near, even⟩ := nearest point
    rw [onGrid, abs_sub_grid positive, abs_sub_grid positive]
    refine ⟨mul_le_mul_of_nonneg_right near grid.le, ?_⟩
    intro different tie
    refine even ?_ (mul_right_cancel₀ grid.ne' tie)
    intro same
    exact different (congrArg (· * _) same)

/-- The magnitude that is found is the rounded point of the grid. -/
theorem units_of_nearest? {magnitude : Magnitude}
    (found : nearest? numerator denominator = some magnitude) :
    magnitude.units = roundedSignificand numerator denominator *
      2 ^ roundingScale numerator denominator ∧
    (roundedSignificand numerator denominator % 2 = 0 →
      magnitude.significand % 2 = 0) := by
  rw [nearest?_eq] at found
  split at found
  · next full =>
      obtain ⟨significand, scale⟩ := ofPair?_eq_some_iff.mp found
      rw [units_eq, significand, scale, full]
      exact ⟨by ring, fun _ => by norm_num⟩
  · obtain ⟨significand, scale⟩ := ofPair?_eq_some_iff.mp found
    rw [units_eq, significand, scale]
    exact ⟨rfl, id⟩

theorem rounds_of_nearest? (positive : 0 < denominator)
    {magnitude : Magnitude}
    (found : nearest? numerator denominator = some magnitude) :
    magnitude.Rounds ((numerator : ℚ) / denominator / 2 ^ 1074) := by
  obtain ⟨units, even⟩ := units_of_nearest? found
  rw [rounds_iff, units]
  refine ⟨fun other => (abs_sub_rounded_le positive other).1, ?_⟩
  intro other different tie
  refine even ((abs_sub_rounded_le positive other).2 ?_ tie)
  rw [← units]
  exact fun same => different (units_injective same)

/-! ## The limit -/

theorem isSome_ofPair?_iff {significand scale : Nat} :
    (ofPair? significand scale).isSome ↔ CanonicalPair significand scale := by
  rw [ofPair?]
  split <;> simp [*]

/-- A magnitude is found as long as the scale, after a carry into the next
one, is not too great. -/
theorem isSome_nearest?_iff (positive : 0 < denominator) :
    (nearest? numerator denominator).isSome ↔
      roundingScale numerator denominator < 2045 ∨
      roundingScale numerator denominator = 2045 ∧
        roundedSignificand numerator denominator < 2 ^ 53 := by
  obtain ⟨bounded, large⟩ :=
    roundedSignificand_bounds numerator positive
  rw [nearest?_eq]
  split
  · next full =>
      rw [isSome_ofPair?_iff, full]
      constructor
      · intro canonical
        exact .inl canonical.2.1
      · intro inRange
        refine ⟨by decide, ?_, .inr le_rfl⟩
        rcases inRange with low | ⟨_, notFull⟩
        · exact low
        · exact absurd notFull (lt_irrefl _)
  · next notFull =>
      have smaller : roundedSignificand numerator denominator < 2 ^ 53 :=
        lt_of_le_of_ne bounded notFull
      rw [isSome_ofPair?_iff]
      constructor
      · intro canonical
        rcases Nat.lt_or_eq_of_le canonical.2.1 with low | top
        · exact .inl low
        · exact .inr ⟨top, smaller⟩
      · intro inRange
        refine ⟨smaller, by omega, ?_⟩
        rcases Nat.eq_zero_or_pos (roundingScale numerator denominator) with
          flat | scaled
        · exact .inl flat
        · exact .inr (large scaled)

theorem div_lt_limit_iff {units : ℚ} :
    units / 2 ^ 1074 < limit ↔ units < (2 ^ 54 - 1) * 2 ^ 2044 := by
  have inUnits : limit * 2 ^ 1074 = ((2 : ℚ) ^ 54 - 1) * 2 ^ 2044 := by
    rw [limit, sub_mul, ← pow_add, ← pow_add, sub_mul, one_mul, ← pow_add]
  rw [div_lt_iff₀ (pow_pos two_pos _), inUnits]

/-- On the greatest scale the significand is carried exactly from half a unit
below the next power of two on. -/
theorem roundedSignificand_lt_iff (positive : 0 < denominator) :
    roundedSignificand numerator denominator < 2 ^ 53 ↔
      (numerator : ℚ) /
          (denominator * 2 ^ roundingScale numerator denominator : Nat) <
        2 ^ 53 - 1 / 2 := by
  obtain ⟨within, even⟩ := abs_sub_roundedSignificand numerator positive
  have near := abs_le.mp within
  have bounded :=
    (roundedSignificand_bounds numerator positive).1
  constructor
  · intro notFull
    have atMost : (roundedSignificand numerator denominator : ℚ) + 1 ≤
        2 ^ 53 := by
      exact_mod_cast notFull
    refine lt_of_le_of_ne (by linarith) fun tie => ?_
    -- On the boundary the greatest significand is no nearer, and it is odd.
    have greatest :
        (roundedSignificand numerator denominator : ℚ) + 1 = 2 ^ 53 := by
      linarith
    have isEven := even (by
      rw [tie, abs_of_nonneg] <;> linarith)
    have exact : roundedSignificand numerator denominator + 1 = 2 ^ 53 := by
      exact_mod_cast greatest
    omega
  · intro below
    refine lt_of_le_of_ne bounded fun full => ?_
    have fullQ : (roundedSignificand numerator denominator : ℚ) = 2 ^ 53 := by
      exact_mod_cast full
    linarith

/-- Whether a number on the grid of its scale is below the limit is told by
the scale, and on the greatest scale by the number itself. -/
theorem scaled_lt_limit_iff {scaled : ℚ} {scale : Nat}
    (below : scaled < 2 ^ 53) (above : 0 < scale → 2 ^ 52 ≤ scaled) :
    scaled * 2 ^ scale < (2 ^ 54 - 1) * 2 ^ 2044 ↔
      scale < 2045 ∨ scale = 2045 ∧ scaled < 2 ^ 53 - 1 / 2 := by
  have grid : (0 : ℚ) < 2 ^ scale := pow_pos two_pos _
  obtain ⟨top, power⟩ : ∃ top : ℚ, top = 2 ^ 2044 := ⟨_, rfl⟩
  have positive : 0 < top := by
    rw [power]
    exact pow_pos two_pos _
  rw [← power]
  rcases Nat.lt_trichotomy scale 2045 with low | rfl | high
  · refine iff_of_true ?_ (.inl low)
    have lower : (2 : ℚ) ^ scale ≤ top := by
      rw [power]
      exact pow_le_pow_right₀ one_le_two (Nat.le_of_lt_succ low)
    have binade : scaled * 2 ^ scale < 2 ^ 53 * 2 ^ scale :=
      mul_lt_mul_of_pos_right below grid
    linarith only [lower, binade, positive]
  · have double : (2 : ℚ) ^ 2045 = 2 * top := by
      rw [power, ← pow_succ']
    rw [double, ← mul_assoc, mul_lt_mul_iff_left₀ positive]
    constructor
    · intro less
      exact .inr ⟨rfl, by linarith⟩
    · rintro (absurdity | ⟨_, less⟩)
      · exact absurd absurdity (lt_irrefl _)
      · linarith
  · refine iff_of_false (not_lt.mpr ?_) (by omega)
    have quadruple : (2 : ℚ) ^ 2046 = 4 * top := by
      rw [power, pow_succ', pow_succ', ← mul_assoc]
      norm_num only
    have greater : 4 * top ≤ (2 : ℚ) ^ scale := by
      rw [← quadruple]
      exact pow_le_pow_right₀ one_le_two high
    have binade : (2 : ℚ) ^ 52 * 2 ^ scale ≤ scaled * 2 ^ scale :=
      mul_le_mul_of_nonneg_right (above (Nat.zero_lt_of_lt high)) grid.le
    linarith only [greater, binade, positive]

/-- A quotient of units is rounded to a magnitude exactly below the limit. -/
theorem isSome_nearest?_iff_lt_limit (positive : 0 < denominator) :
    (nearest? numerator denominator).isSome ↔
      (numerator : ℚ) / denominator / 2 ^ 1074 < limit := by
  obtain ⟨below, above⟩ := scaled_bounds numerator positive
  have onGrid : (numerator : ℚ) / denominator =
      (numerator : ℚ) /
          (denominator * 2 ^ roundingScale numerator denominator : Nat) *
        2 ^ roundingScale numerator denominator := by
    have nonzero : (denominator : ℚ) ≠ 0 := by
      exact_mod_cast positive.ne'
    push_cast
    field_simp
  rw [isSome_nearest?_iff positive, div_lt_limit_iff, onGrid,
    scaled_lt_limit_iff below above, roundedSignificand_lt_iff positive]

/-- A quotient of units is rounded correctly to a magnitude, or else it
reaches the limit. -/
theorem nearest?_eq_some_iff (positive : 0 < denominator)
    {magnitude : Magnitude} :
    nearest? numerator denominator = some magnitude ↔
      (numerator : ℚ) / denominator / 2 ^ 1074 < limit ∧
        magnitude.Rounds ((numerator : ℚ) / denominator / 2 ^ 1074) := by
  constructor
  · intro found
    refine ⟨(isSome_nearest?_iff_lt_limit positive).mp ?_,
      rounds_of_nearest? positive found⟩
    rw [found]
    rfl
  · rintro ⟨inRange, rounds⟩
    obtain ⟨other, found⟩ := Option.isSome_iff_exists.mp
      ((isSome_nearest?_iff_lt_limit positive).mpr inRange)
    rw [found, (rounds_of_nearest? positive found).unique rounds]

end Binade

/-- Every number below the limit is rounded to a magnitude. -/
theorem exists_rounds {exact : ℚ} (nonnegative : 0 ≤ exact)
    (inRange : exact < limit) :
    ∃ magnitude : Magnitude, magnitude.Rounds exact := by
  have units :
      ((exact.num.toNat * 2 ^ 1074 : Nat) : ℚ) / exact.den / 2 ^ 1074 =
        exact := by
    have whole : (exact.num.toNat : ℚ) = exact.num := by
      exact_mod_cast Int.toNat_of_nonneg (Rat.num_nonneg.mpr nonnegative)
    rw [Nat.cast_mul, Nat.cast_pow, Nat.cast_ofNat, div_right_comm,
      mul_div_cancel_right₀ _ (pow_pos two_pos _).ne', whole,
      Rat.num_div_den]
  obtain ⟨magnitude, found⟩ := Option.isSome_iff_exists.mp
    ((isSome_nearest?_iff_lt_limit exact.den_pos).mpr (units.symm ▸ inRange))
  exact ⟨magnitude, units ▸ rounds_of_nearest? exact.den_pos found⟩

end Magnitude

end DocCheck
