import TaskDispatch.Proofs.Retry.Delay
import TaskDispatch.Proofs.Time.Seconds

/-!
# Delays that double

The growth of a delay is computed in double precision: the base delay in seconds is off by at most
two roundings, the powers of two are exact, and the product is rounded once more. For a greatest
delay of at most a million seconds these errors are less than half a nanosecond, so that the delay
is the base delay times the power of two, exactly, or the greatest delay.
-/

namespace TaskDispatch

set_option autoImplicit false

open Binary64

namespace Duration

variable {duration : Duration}

/-- The base delay times a power of two: the product is rounded once more, unless the power is
infinite. -/
theorem doubled_within (positive : 0 < duration.nanos) (count : Nat) :
    Within (duration.exactSeconds * 2 ^ count * (1 - roundoff) ^ 3)
        (duration.exactSeconds * 2 ^ count * (1 + roundoff) ^ 3)
        (mul duration.toBinary64 (power two count)) ∨
      overflow ≤ 2 ^ count ∧
        mul duration.toBinary64 (power two count) = .infinite false := by
  have above := roundoff_pos
  have below := roundoff_lt
  obtain ⟨baseMantissa, baseExponent, base, baseLow, baseHigh⟩ := seconds_finite positive
  have baseNormal : leastNormal ≤ value baseMantissa baseExponent :=
    (normal_seconds positive (by nlinarith)).trans baseLow
  have growthWithin := power_two_within count
  have growthGe : (1 : ℚ) ≤ 2 ^ count := one_le_pow₀ one_le_two
  rw [base]
  generalize power two count = growth at growthWithin
  generalize (2 : ℚ) ^ count = exactGrowth at growthWithin growthGe
  cases growthWithin with
  | infinite great =>
      have nonzero := mantissa_ne_zero baseExponent (least_normal_pos.trans_le baseNormal)
      refine .inr ⟨great, ?_⟩
      simp only [mul, if_neg nonzero]
      rfl
  | @finite mantissa exponent low high =>
      left
      obtain rfl := le_antisymm high low
      apply mul_finite_within
      intro rounded rounds
      generalize value mantissa exponent = exactGrowth at rounds growthGe
      generalize value baseMantissa baseExponent = baseValue
        at rounds baseLow baseHigh baseNormal
      have normal : leastNormal ≤ baseValue * exactGrowth :=
        baseNormal.trans (le_mul_of_one_le_right (least_normal_pos.le.trans baseNormal) growthGe)
      have low := mul_le_mul_of_nonneg_right baseLow (zero_le_one.trans growthGe)
      have high := mul_le_mul_of_nonneg_right baseHigh (zero_le_one.trans growthGe)
      obtain ⟨notBelow, notAbove⟩ := rounds.widened (.inr normal) low high
      constructor
      · refine le_of_eq_of_le ?_ notBelow
        ring
      · refine notAbove.trans_eq ?_
        ring

def doubledNanos (duration : Duration) (count : Nat) : Nat := duration.nanos * 2 ^ count

theorem doubled_nanos_cast (duration : Duration) (count : Nat) :
    (duration.doubledNanos count : ℚ) =
      duration.exactSeconds * 2 ^ count * nanosPerSecond := by
  unfold doubledNanos exactSeconds
  push_cast
  field_simp

theorem two_pow_le_doubled_nanos (positive : 0 < duration.nanos) (count : Nat) :
    2 ^ count ≤ duration.doubledNanos count := Nat.le_mul_of_pos_left _ positive

/-- A million seconds in nanoseconds: the errors of three roundings are less than half of one. -/
abbrev exactLimit : Nat := 1000000 * nanosPerSecond

theorem cubed_bounds :
    1 - 4 / 10 ^ 16 < (1 - roundoff) ^ 3 ∧ (1 + roundoff) ^ 3 < 1 + 4 / 10 ^ 16 := by
  unfold roundoff
  constructor <;> norm_num

/-- What the doubled delay is in double precision: a number that is off by a tiny part, or infinite,
and then the delay is longer than a million seconds. -/
theorem doubled_cases (positive : 0 < duration.nanos) (count : Nat) :
    (∃ mantissa exponent,
        mul duration.toBinary64 (power two count) = .finite false mantissa exponent ∧
          |value mantissa exponent * nanosPerSecond - duration.doubledNanos count| ≤
            duration.doubledNanos count * (4 / 10 ^ 16)) ∨
      mul duration.toBinary64 (power two count) = .infinite false ∧
        exactLimit < duration.doubledNanos count := by
  have cast := duration.doubled_nanos_cast count
  obtain ⟨less, more⟩ := cubed_bounds
  have limit : (exactLimit : ℚ) * 2 < overflow := lt_overflow (by norm_num)
  rcases doubled_within positive count with enclosed | ⟨great, infinite⟩
  · have secondsNonneg : 0 ≤ duration.exactSeconds * 2 ^ count := by
      unfold exactSeconds
      positivity
    generalize mul duration.toBinary64 (power two count) = delay at enclosed
    generalize duration.exactSeconds * 2 ^ count = seconds at enclosed cast secondsNonneg
    cases enclosed with
    | infinite great =>
        refine .inr ⟨rfl, ?_⟩
        have beyond : (exactLimit : ℚ) < duration.doubledNanos count := by
          have twice := mul_le_mul_of_nonneg_left more.le secondsNonneg
          rw [cast]
          norm_num at limit twice ⊢
          linarith
        exact_mod_cast beyond
    | @finite mantissa exponent low high =>
        refine .inl ⟨mantissa, exponent, rfl, ?_⟩
        have below := mul_le_mul_of_nonneg_left less.le secondsNonneg
        have above := mul_le_mul_of_nonneg_left more.le secondsNonneg
        rw [abs_le, cast]
        norm_num at below above ⊢
        constructor <;> linarith
  · refine .inr ⟨infinite, ?_⟩
    have whole : (2 : ℚ) ^ count ≤ duration.doubledNanos count := by
      exact_mod_cast two_pow_le_doubled_nanos positive count
    have beyond : (exactLimit : ℚ) < duration.doubledNanos count := by linarith
    exact_mod_cast beyond

theorem doubled_exactly (positive : 0 < duration.nanos) {count : Nat}
    (within : duration.doubledNanos count ≤ exactLimit) :
    (ofBinary64? (mul duration.toBinary64 (power two count))).map Duration.nanos =
      some (duration.doubledNanos count) := by
  rcases doubled_cases positive count with ⟨mantissa, exponent, same, error⟩ | ⟨_, beyond⟩
  · obtain ⟨numerator, denominator, denominatorPos, converted, exactValue⟩ :=
      of_finite mantissa exponent
    have bound : (duration.doubledNanos count : ℚ) ≤ exactLimit := by exact_mod_cast within
    have whole : roundedQuotient numerator denominator = duration.doubledNanos count := by
      apply rounded_quotient_of_near denominatorPos
      rw [exactValue]
      refine error.trans_lt ?_
      calc (duration.doubledNanos count : ℚ) * (4 / 10 ^ 16) ≤ exactLimit * (4 / 10 ^ 16) := by
            gcongr
        _ < 1 / 2 := by norm_num
    have inRange : duration.doubledNanos count < durationLimit := lt_of_le_of_lt within (by decide)
    rw [same, converted, whole]
    simp only [ofNanos?, dif_pos inRange, Option.map_some]
  · exact absurd within (not_le.mpr beyond)

theorem doubled_beyond (positive : 0 < duration.nanos) {count cap : Nat}
    (limited : cap ≤ exactLimit) (beyond : cap < duration.doubledNanos count) {delay : Duration}
    (found : ofBinary64? (mul duration.toBinary64 (power two count)) = some delay) :
    cap < delay.nanos := by
  rcases doubled_cases positive count with ⟨mantissa, exponent, same, error⟩ | ⟨infinite, _⟩
  · obtain ⟨numerator, denominator, denominatorPos, converted, exactValue⟩ :=
      of_finite mantissa exponent
    have rounding := rounded_quotient_error numerator denominatorPos
    rw [same, converted] at found
    rw [exactValue] at rounding
    have nanos := of_nanos_found found
    have bound : (cap : ℚ) ≤ 10 ^ 15 := by exact_mod_cast limited
    have next : (cap : ℚ) + 1 ≤ duration.doubledNanos count := by exact_mod_cast beyond
    rw [abs_le] at error rounding
    have less : (cap : ℚ) < roundedQuotient numerator denominator := by linarith
    rw [nanos]
    exact_mod_cast less
  · rw [infinite] at found
    cases found

theorem doubled_nanos_mono (duration : Duration) {fewer more : Nat} (le : fewer ≤ more) :
    duration.doubledNanos fewer ≤ duration.doubledNanos more :=
  Nat.mul_le_mul_left _ (Nat.pow_le_pow_right two_pos le)

/-- Fifty doublings of a nanosecond are more than a million seconds. -/
theorem limit_lt_doubled_nanos (positive : 0 < duration.nanos) {count : Nat} (many : 50 ≤ count) :
    exactLimit < duration.doubledNanos count :=
  calc exactLimit < 2 ^ 50 := by decide
    _ ≤ 2 ^ count := Nat.pow_le_pow_right two_pos many
    _ ≤ duration.doubledNanos count := two_pow_le_doubled_nanos positive count

end Duration

namespace RetryPolicy

variable {policy : RetryPolicy}

theorem doubled_delay_nanos (positive : 0 < policy.baseDelay.nanos)
    (limited : policy.maxDelay.nanos ≤ Duration.exactLimit) (count : Nat) :
    (((Duration.ofBinary64? (mul policy.baseDelay.toBinary64 (power two count))).getD
        policy.maxDelay).shorter policy.maxDelay).nanos =
      min (policy.baseDelay.doubledNanos count) policy.maxDelay.nanos := by
  rw [Duration.shorter_nanos]
  rcases le_or_gt (policy.baseDelay.doubledNanos count) policy.maxDelay.nanos with within | beyond
  · obtain ⟨delay, found, nanos⟩ :=
      Option.map_eq_some_iff.mp (Duration.doubled_exactly positive (within.trans limited))
    rw [found, Option.getD_some, nanos]
  · rw [min_eq_right beyond.le]
    cases found : Duration.ofBinary64? (mul policy.baseDelay.toBinary64 (power two count)) with
    | none => rw [Option.getD_none, min_self]
    | some delay =>
        rw [Option.getD_some]
        exact min_eq_right (Duration.doubled_beyond positive limited beyond found).le

/-- No exponent is so great that its limit is felt before the greatest delay. -/
theorem limited_doublings (positive : 0 < policy.baseDelay.nanos)
    (limited : policy.maxDelay.nanos ≤ Duration.exactLimit) {limit : Nat} (many : 50 ≤ limit)
    (count : Nat) :
    min (policy.baseDelay.doubledNanos (min count limit)) policy.maxDelay.nanos =
      min (policy.baseDelay.doubledNanos count) policy.maxDelay.nanos := by
  rcases le_total count limit with within | beyond
  · rw [min_eq_left within]
  · have least := limited.trans (Duration.limit_lt_doubled_nanos positive many).le
    have more := policy.baseDelay.doubled_nanos_mono beyond
    rw [min_eq_right beyond, min_eq_right least, min_eq_right (least.trans more)]

/-- If delays double, the base delay is not zero and the greatest delay is at most a million
seconds, the delay after any number of retries is, to the nanosecond, the base delay times that
power of two or the greatest delay, whichever is shorter. So it never decreases. -/
theorem doubling_delay_is_exact (doubling : policy.multiplier = .two)
    (positive : 0 < policy.baseDelay.nanos)
    (limited : policy.maxDelay.nanos ≤ 1000000 * nanosPerSecond) :
    (∀ retried : UInt32, (policy.nextDelay retried).nanos =
        min (policy.baseDelay.nanos * 2 ^ retried.toNat) policy.maxDelay.nanos) ∧
      ∀ fewer more : UInt32, fewer ≤ more → policy.nextDelay fewer ≤ policy.nextDelay more := by
  have exact (retried : UInt32) : (policy.nextDelay retried).nanos =
      min (policy.baseDelay.nanos * 2 ^ retried.toNat) policy.maxDelay.nanos := by
    unfold nextDelay
    rw [doubling]
    simp only
    rw [doubled_delay_nanos positive limited]
    exact limited_doublings positive limited (by decide) retried.toNat
  refine ⟨exact, ?_⟩
  intro fewer more le
  change (policy.nextDelay fewer).nanos ≤ (policy.nextDelay more).nanos
  rw [exact, exact]
  exact min_le_min_right _ (policy.baseDelay.doubled_nanos_mono (UInt32.le_iff_toNat_le.mp le))

/-- A base delay of a seventh of a second, in whole nanoseconds, and a greatest delay of a day. -/
def seventhDoubled : RetryPolicy :=
  { default with baseDelay := ⟨142857142, by decide⟩ }

theorem seventh_doubled_twenty_times :
    (seventhDoubled.nextDelay 19).nanos = 74898285264896 ∧
      (seventhDoubled.nextDelay 20).nanos = 86400 * nanosPerSecond := by
  have exact := (doubling_delay_is_exact (show seventhDoubled.multiplier = .two from rfl)
    (by decide) (by decide)).1
  constructor
  · rw [exact]
    decide
  · rw [exact]
    decide

end RetryPolicy

end TaskDispatch
