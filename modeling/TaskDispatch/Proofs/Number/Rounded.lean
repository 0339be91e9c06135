import Mathlib.Algebra.Order.Field.Power
import Mathlib.Algebra.Order.Ring.Rat
import Mathlib.Tactic.FieldSimp
import Mathlib.Tactic.Linarith
import Mathlib.Tactic.NormNum
import Mathlib.Tactic.Positivity
import Mathlib.Tactic.Ring
import TaskDispatch.Number.Binary64

/-!
# What rounding does to a value

The value of a finite number is a rational, and an operation rounds the exact rational result once.
Main statements, for the rounding of a positive value: the result does not cross a value that is
representable, it is off by at most one part in `2 ^ 53` unless the value is subnormal, and it is
infinite exactly if it would be `2 ^ 1024` or more.
-/

namespace TaskDispatch

set_option autoImplicit false

section Quotients

variable {numerator denominator : Nat}

theorem rounded_quotient_error (numerator : Nat) (positive : 0 < denominator) :
    |(roundedQuotient numerator denominator : ℚ) - numerator / denominator| ≤ 1 / 2 := by
  have divisor : (0 : ℚ) < denominator := Nat.cast_pos.mpr positive
  obtain ⟨atMost, atLeast⟩ := twice_off_by_rounding_le numerator denominator positive
  have above : 2 * ((roundedQuotient numerator denominator : ℚ) * denominator) ≤
      2 * numerator + denominator := by
    exact_mod_cast atMost
  have below : 2 * (numerator : ℚ) ≤
      2 * ((roundedQuotient numerator denominator : ℚ) * denominator) + denominator := by
    exact_mod_cast atLeast
  have exact : (numerator : ℚ) = numerator / denominator * denominator :=
    (div_mul_cancel₀ _ divisor.ne').symm
  rw [exact] at above below
  rw [abs_le]
  constructor <;> nlinarith only [above, below, divisor]

theorem rounded_quotient_le (positive : 0 < denominator) {whole : Nat}
    (le : (numerator : ℚ) / denominator ≤ whole) :
    roundedQuotient numerator denominator ≤ whole := by
  have error := (abs_le.mp (rounded_quotient_error numerator positive)).2
  have less : (roundedQuotient numerator denominator : ℚ) < whole + 1 := by linarith
  exact Nat.lt_succ_iff.mp (by exact_mod_cast less)

theorem le_rounded_quotient (positive : 0 < denominator) {whole : Nat}
    (le : (whole : ℚ) ≤ numerator / denominator) :
    whole ≤ roundedQuotient numerator denominator := by
  have error := (abs_le.mp (rounded_quotient_error numerator positive)).1
  have less : (whole : ℚ) < roundedQuotient numerator denominator + 1 := by linarith
  exact Nat.lt_succ_iff.mp (by exact_mod_cast less)

theorem rounded_quotient_of_near (positive : 0 < denominator) {whole : Nat}
    (near : |(numerator : ℚ) / denominator - whole| < 1 / 2) :
    roundedQuotient numerator denominator = whole := by
  obtain ⟨errorBelow, errorAbove⟩ :=
    abs_le.mp (rounded_quotient_error numerator positive)
  obtain ⟨nearBelow, nearAbove⟩ := abs_lt.mp near
  have above : (roundedQuotient numerator denominator : ℚ) < whole + 1 := by linarith
  have below : (whole : ℚ) < roundedQuotient numerator denominator + 1 := by linarith
  exact Nat.le_antisymm (Nat.lt_succ_iff.mp (by exact_mod_cast above))
    (Nat.lt_succ_iff.mp (by exact_mod_cast below))

end Quotients

namespace Binary64

theorem two_pow_cast (power : Nat) : ((Nat.pow 2 power : Nat) : ℚ) = 2 ^ (power : ℤ) := by
  rw [Nat.pow_eq, Nat.cast_pow, Nat.cast_ofNat, zpow_natCast]

theorem two_zpow_succ (exponent : ℤ) : (2 : ℚ) ^ (exponent + 1) = 2 * 2 ^ exponent := by
  rw [zpow_add_one₀ two_ne_zero, mul_comm]

/-- What a finite number stands for, its sign apart. -/
def value (mantissa : Nat) (exponent : ℤ) : ℚ := mantissa * 2 ^ exponent

theorem value_nonneg (mantissa : Nat) (exponent : ℤ) : 0 ≤ value mantissa exponent := by
  unfold value
  positivity

theorem value_zero (exponent : ℤ) : value 0 exponent = 0 := by simp [value]

theorem value_two_pow (power : Nat) (exponent : ℤ) :
    value (2 ^ power) exponent = 2 ^ (exponent + power) := by
  unfold value
  rw [zpow_add₀ two_ne_zero, zpow_natCast, mul_comm]
  push_cast
  rfl

theorem value_mul (left right : Nat) (leftExponent rightExponent : ℤ) :
    value (left * right) (leftExponent + rightExponent) =
      value left leftExponent * value right rightExponent := by
  unfold value
  rw [Nat.cast_mul, zpow_add₀ two_ne_zero]
  ring

theorem power_of_two_pos (exponent : ℤ) : 0 < (powerOfTwo exponent).2 := by
  cases exponent with
  | ofNat power => exact Nat.one_pos
  | negSucc power => exact Nat.pow_pos Nat.two_pos

theorem power_of_two_value (exponent : ℤ) :
    ((powerOfTwo exponent).1 : ℚ) / (powerOfTwo exponent).2 = 2 ^ exponent := by
  cases exponent with
  | ofNat power =>
      simp only [powerOfTwo, two_pow_cast, Nat.cast_one, div_one]
      rfl
  | negSucc power =>
      simp only [powerOfTwo, two_pow_cast, Nat.cast_one, one_div]
      rw [← zpow_neg, Int.negSucc_eq]
      norm_cast

theorem magnitude_pos (mantissa : Nat) (exponent : ℤ) : 0 < (magnitude mantissa exponent).2 :=
  power_of_two_pos exponent

theorem magnitude_value (mantissa : Nat) (exponent : ℤ) :
    ((magnitude mantissa exponent).1 : ℚ) / (magnitude mantissa exponent).2 =
      value mantissa exponent := by
  simp only [magnitude, value, Nat.cast_mul]
  rw [mul_div_assoc, power_of_two_value]

section Rounding

variable {numerator denominator : Nat} {exponent : ℤ}

/-- An exponent at which a value has at most 53 binary digits before the point, and exactly 53
unless it is the least one. -/
structure Fits (exponent : ℤ) (exact : ℚ) : Prop where
  least : leastExponent ≤ exponent
  below : exact < 2 ^ (exponent + 53)
  above : exponent = leastExponent ∨ 2 ^ (exponent + 52) ≤ exact

theorem log2_quotient (numeratorPos : 0 < numerator) (denominatorPos : 0 < denominator) :
    (2 : ℚ) ^ ((numerator.log2 : ℤ) - denominator.log2 - 1) < numerator / denominator ∧
      (numerator : ℚ) / denominator < 2 ^ ((numerator.log2 : ℤ) - denominator.log2 + 1) := by
  have divisor : (0 : ℚ) < denominator := Nat.cast_pos.mpr denominatorPos
  have numeratorLow : (2 : ℚ) ^ (numerator.log2 : ℤ) ≤ numerator := by
    rw [zpow_natCast]
    exact_mod_cast Nat.log2_self_le numeratorPos.ne'
  have numeratorHigh : (numerator : ℚ) < 2 ^ ((numerator.log2 : ℤ) + 1) := by
    have bound : numerator < 2 ^ (numerator.log2 + 1) := Nat.lt_log2_self
    exact_mod_cast bound
  have denominatorLow : (2 : ℚ) ^ (denominator.log2 : ℤ) ≤ denominator := by
    rw [zpow_natCast]
    exact_mod_cast Nat.log2_self_le denominatorPos.ne'
  have denominatorHigh : (denominator : ℚ) < 2 ^ ((denominator.log2 : ℤ) + 1) := by
    have bound : denominator < 2 ^ (denominator.log2 + 1) := Nat.lt_log2_self
    exact_mod_cast bound
  constructor
  · rw [lt_div_iff₀ divisor]
    calc (2 : ℚ) ^ ((numerator.log2 : ℤ) - denominator.log2 - 1) * denominator
        < 2 ^ ((numerator.log2 : ℤ) - denominator.log2 - 1) * 2 ^ ((denominator.log2 : ℤ) + 1) := by
          gcongr
      _ = 2 ^ (numerator.log2 : ℤ) := by
          rw [← zpow_add₀ two_ne_zero]
          congr 1
          ring
      _ ≤ numerator := numeratorLow
  · rw [div_lt_iff₀ divisor]
    calc (numerator : ℚ) < 2 ^ ((numerator.log2 : ℤ) + 1) := numeratorHigh
      _ = 2 ^ ((numerator.log2 : ℤ) - denominator.log2 + 1) * 2 ^ (denominator.log2 : ℤ) := by
          rw [← zpow_add₀ two_ne_zero]
          congr 1
          ring
      _ ≤ 2 ^ ((numerator.log2 : ℤ) - denominator.log2 + 1) * denominator := by gcongr

/-- The comparison by which the exponent is found, read as one of values. -/
theorem guess_fits (numerator : Nat) (denominatorPos : 0 < denominator) (guess : ℤ) :
    (match guess with
      | .ofNat shift => decide (denominator * Nat.pow 2 (shift + 52) ≤ numerator)
      | .negSucc shift =>
          decide (denominator * Nat.pow 2 52 ≤ numerator * Nat.pow 2 (shift + 1))) = true ↔
      (2 : ℚ) ^ (guess + 52) ≤ numerator / denominator := by
  have divisor : (0 : ℚ) < denominator := Nat.cast_pos.mpr denominatorPos
  rw [le_div_iff₀ divisor]
  cases guess with
  | ofNat shift =>
      rw [decide_eq_true_iff, ← @Nat.cast_le ℚ, Nat.cast_mul, two_pow_cast, mul_comm]
      rfl
  | negSucc shift =>
      rw [decide_eq_true_iff, ← @Nat.cast_le ℚ, Nat.cast_mul, Nat.cast_mul, two_pow_cast,
        two_pow_cast]
      have unit : (0 : ℚ) < 2 ^ ((shift + 1 : Nat) : ℤ) := by positivity
      have split : (2 : ℚ) ^ ((52 : Nat) : ℤ) =
          2 ^ (Int.negSucc shift + 52) * 2 ^ ((shift + 1 : Nat) : ℤ) := by
        rw [← zpow_add₀ two_ne_zero, Int.negSucc_eq]
        congr 1
        push_cast
        ring
      rw [split, mul_left_comm, ← mul_assoc, mul_le_mul_iff_left₀ unit]

theorem Fits.of_window {exact : ℚ} (low : 2 ^ (exponent + 52) ≤ exact)
    (high : exact < 2 ^ (exponent + 53)) : Fits (max leastExponent exponent) exact := by
  rcases le_total leastExponent exponent with above | below
  · rw [max_eq_right above]
    exact ⟨above, high, .inr low⟩
  · rw [max_eq_left below]
    have wider : (2 : ℚ) ^ (exponent + 53) ≤ 2 ^ (leastExponent + 53) :=
      zpow_le_zpow_right₀ one_le_two (by omega)
    exact ⟨le_rfl, high.trans_le wider, .inl rfl⟩

theorem exponent_of_eq (numerator : Nat) (denominatorPos : 0 < denominator) :
    let guess : ℤ := (numerator.log2 : ℤ) - denominator.log2 - 52
    exponentOf numerator denominator =
      max leastExponent
        (if (2 : ℚ) ^ (guess + 52) ≤ numerator / denominator then guess else guess - 1) := by
  intro guess
  have fits := guess_fits numerator denominatorPos guess
  unfold exponentOf
  exact congrArg (max leastExponent) (if_congr fits rfl rfl)

theorem exponent_fits (numeratorPos : 0 < numerator) (denominatorPos : 0 < denominator) :
    Fits (exponentOf numerator denominator) (numerator / denominator) := by
  obtain ⟨low, high⟩ := log2_quotient numeratorPos denominatorPos
  rw [exponent_of_eq numerator denominatorPos]
  generalize bound : (numerator.log2 : ℤ) - denominator.log2 - 52 = guess
  have lowExponent : (numerator.log2 : ℤ) - denominator.log2 - 1 = guess - 1 + 52 := by omega
  have highExponent : (numerator.log2 : ℤ) - denominator.log2 + 1 = guess + 53 := by omega
  rw [lowExponent] at low
  rw [highExponent] at high
  split
  case isTrue fit => exact .of_window fit high
  case isFalse unfit =>
    refine .of_window low.le ((not_le.mp unfit).trans_eq ?_)
    congr 1
    ring

theorem scaled_quotient_eq (numerator : Nat) (denominatorPos : 0 < denominator) (exponent : ℤ) :
    ∃ scaledNumerator scaledDenominator : Nat, 0 < scaledDenominator ∧
      scaledQuotient numerator denominator exponent =
        roundedQuotient scaledNumerator scaledDenominator ∧
      (scaledNumerator : ℚ) / scaledDenominator = numerator / denominator / 2 ^ exponent := by
  cases exponent with
  | ofNat shift =>
      refine ⟨numerator, denominator * Nat.pow 2 shift,
        Nat.mul_pos denominatorPos (Nat.pow_pos Nat.two_pos), rfl, ?_⟩
      rw [Nat.cast_mul, two_pow_cast, div_div]
      rfl
  | negSucc shift =>
      refine ⟨numerator * Nat.pow 2 (shift + 1), denominator, denominatorPos, rfl, ?_⟩
      rw [Nat.cast_mul, two_pow_cast, Int.negSucc_eq, zpow_neg, div_inv_eq_mul, mul_div_right_comm]
      norm_cast

theorem scaled_error (numerator : Nat) (denominatorPos : 0 < denominator) (exponent : ℤ) :
    |value (scaledQuotient numerator denominator exponent) exponent - numerator / denominator| ≤
      2 ^ exponent / 2 := by
  obtain ⟨top, bottom, positive, same, scaled⟩ :=
    scaled_quotient_eq numerator denominatorPos exponent
  have unit : (0 : ℚ) < 2 ^ exponent := by positivity
  have error := rounded_quotient_error top positive
  rw [scaled] at error
  have factored : value (roundedQuotient top bottom) exponent - numerator / denominator =
      (roundedQuotient top bottom - numerator / denominator / 2 ^ exponent) * 2 ^ exponent := by
    unfold value
    field_simp
  rw [same, factored, abs_mul, abs_of_pos unit]
  linarith [mul_le_mul_of_nonneg_right error unit.le]

theorem scaled_le (denominatorPos : 0 < denominator) {whole : Nat}
    (le : (numerator : ℚ) / denominator ≤ value whole exponent) :
    scaledQuotient numerator denominator exponent ≤ whole := by
  obtain ⟨top, bottom, positive, same, scaled⟩ :=
    scaled_quotient_eq numerator denominatorPos exponent
  rw [same]
  apply rounded_quotient_le positive
  rwa [scaled, div_le_iff₀ (by positivity)]

theorem le_scaled (denominatorPos : 0 < denominator) {whole : Nat}
    (le : value whole exponent ≤ (numerator : ℚ) / denominator) :
    whole ≤ scaledQuotient numerator denominator exponent := by
  obtain ⟨top, bottom, positive, same, scaled⟩ :=
    scaled_quotient_eq numerator denominatorPos exponent
  rw [same]
  apply le_rounded_quotient positive
  rwa [scaled, le_div_iff₀ (by positivity)]

end Rounding

section Nearest

def roundoff : ℚ := 2 ^ (-53 : ℤ)

def leastNormal : ℚ := 2 ^ (-1022 : ℤ)

/-- The least value that is too great for a finite number. -/
def overflow : ℚ := 2 ^ (1024 : ℤ)

/-- A value that a finite number has, or would have if exponents had no upper limit. -/
def Representable (exact : ℚ) : Prop :=
  ∃ (mantissa : Nat) (exponent : ℤ),
    mantissa ≤ 2 ^ 53 ∧ leastExponent ≤ exponent ∧ exact = value mantissa exponent

/-- How a value is rounded, had exponents no upper limit: to one that is close by, and without
crossing any value that is representable. -/
structure Rounds (exact rounded : ℚ) : Prop where
  near : leastNormal ≤ exact → |rounded - exact| ≤ roundoff * exact
  not_above : ∀ bound, Representable bound → exact ≤ bound → rounded ≤ bound
  not_below : ∀ bound, Representable bound → bound ≤ exact → bound ≤ rounded

variable {exact : ℚ} {exponent : ℤ}

/-- At the exponent of a value, a representable value is either a whole multiple of the unit or
less than any value with that exponent. -/
theorem Representable.cases {bound : ℚ} (representable : Representable bound)
    (exponent : ℤ) :
    (∃ whole : Nat, bound = value whole exponent) ∨
      (leastExponent < exponent ∧ bound ≤ value (2 ^ 52) exponent) := by
  obtain ⟨mantissa, own, small, least, rfl⟩ := representable
  rcases le_or_gt exponent own with above | below
  · left
    refine ⟨mantissa * 2 ^ (own - exponent).toNat, ?_⟩
    obtain ⟨shift, rfl⟩ := Int.le.dest above
    have count : (exponent + shift - exponent).toNat = shift := by omega
    unfold value
    rw [count, zpow_add₀ two_ne_zero, zpow_natCast]
    push_cast
    ring
  · right
    refine ⟨lt_of_le_of_lt least below, ?_⟩
    have few : (mantissa : ℚ) ≤ 2 ^ 53 := by exact_mod_cast small
    have unit : (2 : ℚ) ^ own ≤ 2 ^ (exponent - 1) := zpow_le_zpow_right₀ one_le_two (by omega)
    have next := two_zpow_succ (exponent - 1)
    rw [sub_add_cancel] at next
    unfold value
    calc (mantissa : ℚ) * 2 ^ own ≤ 2 ^ 53 * 2 ^ (exponent - 1) := by gcongr
      _ = ((2 ^ 52 : Nat) : ℚ) * 2 ^ exponent := by
          rw [next]
          push_cast
          ring

theorem Fits.at_most (fits : Fits exponent exact) : exact ≤ value (2 ^ 53) exponent := by
  rw [value_two_pow]
  exact fits.below.le

theorem Fits.lowest (fits : Fits exponent exact) (finer : leastExponent < exponent) :
    value (2 ^ 52) exponent ≤ exact := by
  rw [value_two_pow]
  exact fits.above.resolve_left finer.ne'

variable {numerator denominator : Nat}

def roundedValue (numerator denominator : Nat) : ℚ :=
  value (scaledQuotient numerator denominator (exponentOf numerator denominator))
    (exponentOf numerator denominator)

theorem value_le_value {fewer more : Nat} (le : fewer ≤ more) (exponent : ℤ) :
    value fewer exponent ≤ value more exponent := by
  unfold value
  gcongr

theorem rounded_near (fits : Fits exponent (numerator / denominator))
    (denominatorPos : 0 < denominator)
    (normal : leastNormal ≤ (numerator : ℚ) / denominator) :
    |value (scaledQuotient numerator denominator exponent) exponent - numerator / denominator| ≤
      roundoff * (numerator / denominator) := by
  have unit : (2 : ℚ) ^ (exponent + 52) ≤ numerator / denominator := by
    rcases fits.above with rfl | above
    · exact normal
    · exact above
  refine (scaled_error numerator denominatorPos exponent).trans ?_
  calc (2 : ℚ) ^ exponent / 2 = roundoff * 2 ^ (exponent + 52) := by
        unfold roundoff
        rw [← zpow_add₀ two_ne_zero, div_eq_mul_inv, ← zpow_neg_one, ← zpow_add₀ two_ne_zero]
        congr 1
        ring
    _ ≤ roundoff * (numerator / denominator) := by
        unfold roundoff
        gcongr

/-- Rounding a positive quotient. -/
theorem rounded_value_rounds (numeratorPos : 0 < numerator) (denominatorPos : 0 < denominator) :
    Rounds (numerator / denominator) (roundedValue numerator denominator) := by
  have fits := exponent_fits numeratorPos denominatorPos
  unfold roundedValue
  generalize exponentOf numerator denominator = exponent at fits ⊢
  refine ⟨rounded_near fits denominatorPos, ?_, ?_⟩
  · intro bound representable le
    rcases representable.cases exponent with ⟨whole, rfl⟩ | ⟨finer, small⟩
    · exact value_le_value (scaled_le denominatorPos le) exponent
    · have lowest := fits.lowest finer
      have rounded := scaled_le denominatorPos (le.trans small)
      exact (value_le_value rounded exponent).trans (lowest.trans le)
  · intro bound representable le
    rcases representable.cases exponent with ⟨whole, rfl⟩ | ⟨finer, small⟩
    · exact value_le_value (le_scaled denominatorPos le) exponent
    · have rounded := le_scaled denominatorPos (fits.lowest finer)
      exact small.trans (value_le_value rounded exponent)

theorem rounds_zero : Rounds 0 0 where
  near normal := by
    have positive : 0 < leastNormal := zpow_pos two_pos _
    exact absurd normal (not_le.mpr positive)
  not_above _ _ le := le
  not_below _ _ le := le

theorem value_lt_overflow {mantissa : Nat} (small : mantissa < 2 ^ 53)
    (low : exponent ≤ greatestExponent) : value mantissa exponent < overflow := by
  have few : (mantissa : ℚ) < 2 ^ 53 := by exact_mod_cast small
  have unit : (2 : ℚ) ^ exponent ≤ 2 ^ greatestExponent := zpow_le_zpow_right₀ one_le_two low
  calc value mantissa exponent < 2 ^ 53 * 2 ^ exponent := by
        unfold value
        gcongr
    _ ≤ 2 ^ (53 : ℤ) * 2 ^ greatestExponent := by
        gcongr
        exact_mod_cast le_rfl
    _ = overflow := by
        rw [← zpow_add₀ two_ne_zero]
        rfl

theorem overflow_le_value {mantissa : Nat} (full : 2 ^ 52 ≤ mantissa)
    (high : greatestExponent < exponent) : overflow ≤ value mantissa exponent := by
  have many : (2 : ℚ) ^ 52 ≤ mantissa := by exact_mod_cast full
  have unit : (2 : ℚ) ^ (972 : ℤ) ≤ 2 ^ exponent := zpow_le_zpow_right₀ one_le_two high
  calc overflow = 2 ^ (52 : ℤ) * 2 ^ (972 : ℤ) := by
        rw [← zpow_add₀ two_ne_zero]
        rfl
    _ ≤ mantissa * 2 ^ exponent := by
        gcongr
        exact_mod_cast many
    _ = value mantissa exponent := rfl

/-- A rounded mantissa of 54 binary digits with the exponent it has been rounded at: it is a power
of two, and is written with the next exponent. -/
def carried (mantissa : Nat) (exponent : ℤ) : Nat × ℤ :=
  if mantissa = Nat.pow 2 53 then (Nat.pow 2 52, exponent + 1) else (mantissa, exponent)

theorem carried_value (mantissa : Nat) (exponent : ℤ) :
    value (carried mantissa exponent).1 (carried mantissa exponent).2 =
      value mantissa exponent := by
  unfold carried
  split
  case isTrue full =>
    subst full
    simp only [value, two_pow_cast]
    rw [← zpow_add₀ two_ne_zero, ← zpow_add₀ two_ne_zero]
    congr 1
    push_cast
    ring
  case isFalse => rfl

theorem carried_lt {mantissa : Nat} (small : mantissa ≤ 2 ^ 53) (exponent : ℤ) :
    (carried mantissa exponent).1 < 2 ^ 53 := by
  unfold carried
  split
  case isTrue => exact Nat.pow_lt_pow_right one_lt_two (by decide)
  case isFalse less => exact lt_of_le_of_ne small less

theorem le_carried {mantissa : Nat} (full : leastExponent < exponent → 2 ^ 52 ≤ mantissa)
    (high : greatestExponent < (carried mantissa exponent).2) :
    2 ^ 52 ≤ (carried mantissa exponent).1 := by
  unfold carried at high ⊢
  split
  case isTrue => exact le_rfl
  case isFalse less =>
    rw [if_neg less] at high
    exact full (lt_trans (by decide) high)

theorem of_ratio_eq (negative : Bool) (numeratorPos : 0 < numerator) (denominator : Nat) :
    let exponent := exponentOf numerator denominator
    let result := carried (scaledQuotient numerator denominator exponent) exponent
    ofRatio negative numerator denominator =
      if greatestExponent < result.2 then .infinite negative
      else .finite negative result.1 result.2 := by
  unfold ofRatio
  rw [if_neg numeratorPos.ne']
  rfl

/-- What rounding brings, and when it is infinite: never of zero, and of a positive quotient if the
rounded value is too great. -/
theorem of_ratio_cases (negative : Bool) (numerator : Nat) (denominatorPos : 0 < denominator) :
    ∃ rounded, Rounds (numerator / denominator) rounded ∧
      if rounded < overflow then
        ∃ mantissa exponent, ofRatio negative numerator denominator =
          .finite negative mantissa exponent ∧ value mantissa exponent = rounded
      else ofRatio negative numerator denominator = .infinite negative := by
  rcases numerator.eq_zero_or_pos with rfl | numeratorPos
  · have below : (0 : ℚ) < overflow := zpow_pos two_pos _
    refine ⟨0, ?_, ?_⟩
    · rw [Nat.cast_zero, zero_div]
      exact rounds_zero
    · rw [if_pos below]
      exact ⟨0, leastExponent, rfl, value_zero _⟩
  · refine ⟨_, rounded_value_rounds numeratorPos denominatorPos, ?_⟩
    have fits := exponent_fits numeratorPos denominatorPos
    have same := of_ratio_eq negative numeratorPos denominator
    unfold roundedValue
    generalize exponentOf numerator denominator = exponent at fits same ⊢
    have small := scaled_le denominatorPos fits.at_most
    have full : leastExponent < exponent →
        2 ^ 52 ≤ scaledQuotient numerator denominator exponent :=
      fun finer => le_scaled denominatorPos (fits.lowest finer)
    rw [← carried_value]
    have below := carried_lt small exponent
    have above := le_carried full
    simp only [same]
    generalize carried (scaledQuotient numerator denominator exponent) exponent = result
      at below above
    by_cases high : greatestExponent < result.2
    · rw [if_pos high, if_neg (not_lt.mpr (overflow_le_value (above high) high))]
    · rw [if_neg high, if_pos (value_lt_overflow below (not_lt.mp high))]
      exact ⟨_, _, rfl, rfl⟩

end Nearest

end Binary64

end TaskDispatch
