import TaskDispatch.Proofs.Number.Enclosure
import TaskDispatch.Time.Duration

/-!
# Seconds in double precision

The seconds of a duration are converted with one rounding for the whole seconds, one for the
fraction and one for their sum, and a number of seconds is converted back to the nearest whole
number of nanoseconds. No value on the way is subnormal or infinite, so each rounding is off by at
most one part in `2 ^ 53`.
-/

namespace TaskDispatch

set_option autoImplicit false

open Binary64

theorem least_normal_le_half_nano : leastNormal ≤ 1 / nanosPerSecond * (1 / 2) := by
  have coarse : leastNormal ≤ 2 ^ (-40 : ℤ) := zpow_le_zpow_right₀ one_le_two (by decide)
  refine coarse.trans ?_
  norm_num

namespace Duration

def exactSeconds (duration : Duration) : ℚ := duration.nanos / nanosPerSecond

theorem exact_seconds_split (duration : Duration) :
    duration.exactSeconds = duration.seconds + duration.subsecond / nanosPerSecond := by
  have parts := Nat.div_add_mod duration.nanos nanosPerSecond
  have cast : (nanosPerSecond : ℚ) * duration.seconds + duration.subsecond = duration.nanos := by
    exact_mod_cast parts
  unfold exactSeconds
  rw [← cast, add_div, mul_div_cancel_left₀]
  exact Nat.cast_ne_zero.mpr (by decide)

variable {duration : Duration}

/-- Neither the seconds of a duration nor what is left of them after some errors are subnormal. -/
theorem normal_seconds (positive : 0 < duration.nanos) {factor : ℚ} (half : 1 / 2 ≤ factor) :
    leastNormal ≤ duration.exactSeconds * factor := by
  have oneLe : (1 : ℚ) ≤ duration.nanos := by exact_mod_cast positive
  calc leastNormal ≤ 1 / nanosPerSecond * (1 / 2) := least_normal_le_half_nano
    _ ≤ duration.exactSeconds * factor := by
        unfold exactSeconds
        gcongr

theorem exact_seconds_lt (duration : Duration) : duration.exactSeconds < 2 ^ 64 := by
  have bound : (duration.nanos : ℚ) < durationLimit := by exact_mod_cast duration.inRange
  unfold exactSeconds
  rw [div_lt_iff₀ (by norm_num)]
  exact bound.trans_eq (by norm_num)

theorem seconds_lt (duration : Duration) : (duration.seconds : ℚ) < 2 ^ 64 := by
  refine lt_of_le_of_lt ?_ duration.exact_seconds_lt
  rw [exact_seconds_split]
  exact le_add_of_nonneg_right (by positivity)

theorem subsecond_lt (duration : Duration) : duration.subsecond < nanosPerSecond :=
  Nat.mod_lt _ (by decide)

/-- The fraction of a second is rounded once. -/
theorem fraction_within (duration : Duration) :
    Within (duration.subsecond / nanosPerSecond * (1 - roundoff))
      (duration.subsecond / nanosPerSecond * (1 + roundoff))
      (div (ofNat duration.subsecond) (ofNat nanosPerSecond)) := by
  have fits : nanosPerSecond ≤ 2 ^ 53 := by decide
  obtain ⟨topMantissa, topExponent, top, topValue⟩ :=
    of_nat_finite (duration.subsecond_lt.le.trans fits)
  obtain ⟨bottomMantissa, bottomExponent, bottom, bottomValue⟩ := of_nat_finite fits
  have divisible : 0 < bottomMantissa := by
    apply Nat.pos_of_ne_zero
    apply mantissa_ne_zero bottomExponent
    rw [bottomValue]
    norm_num
  have normal : Normal ((duration.subsecond : ℚ) / nanosPerSecond) := by
    rcases duration.subsecond.eq_zero_or_pos with none | some
    · left
      rw [none, Nat.cast_zero, zero_div]
    · right
      have oneLe : (1 : ℚ) ≤ duration.subsecond := by exact_mod_cast some
      calc leastNormal ≤ 1 / nanosPerSecond * (1 / 2) := least_normal_le_half_nano
        _ ≤ 1 / nanosPerSecond := by norm_num
        _ ≤ duration.subsecond / nanosPerSecond := by gcongr
  rw [top, bottom]
  apply div_finite_within divisible
  intro rounded rounds
  rw [topValue, bottomValue] at rounds
  exact rounds.bounds normal

/-- The whole seconds are rounded once, and so is the sum. -/
theorem seconds_within (positive : 0 < duration.nanos) :
    Within (duration.exactSeconds * (1 - roundoff) ^ 2) (duration.exactSeconds * (1 + roundoff) ^ 2)
      duration.toBinary64 := by
  have above := roundoff_pos
  have below := roundoff_lt
  have bounded := duration.seconds_lt
  have fraction : (duration.subsecond : ℚ) / nanosPerSecond ≤ 1 := by
    rw [div_le_one (by norm_num)]
    exact_mod_cast duration.subsecond_lt.le
  obtain ⟨wholeMantissa, wholeExponent, whole, wholeLow, wholeHigh⟩ :=
    (of_nat_within duration.seconds).exists_finite (lt_overflow (by nlinarith))
  obtain ⟨partMantissa, partExponent, part, partLow, partHigh⟩ :=
    duration.fraction_within.exists_finite (lt_overflow (by nlinarith))
  have split := duration.exact_seconds_split
  unfold toBinary64
  rw [whole, part]
  apply add_finite_within
  intro rounded rounds
  have low : duration.exactSeconds * (1 - roundoff) ≤
      value wholeMantissa wholeExponent + value partMantissa partExponent := by
    rw [split, add_mul]
    exact add_le_add wholeLow partLow
  have high : value wholeMantissa wholeExponent + value partMantissa partExponent ≤
      duration.exactSeconds * (1 + roundoff) := by
    rw [split, add_mul]
    exact add_le_add wholeHigh partHigh
  generalize value wholeMantissa wholeExponent + value partMantissa partExponent = sum
    at rounds low high
  have normal : leastNormal ≤ sum := (normal_seconds positive (by linarith)).trans low
  rw [pow_two, pow_two, ← mul_assoc, ← mul_assoc]
  exact rounds.widened (.inr normal) low high

theorem seconds_finite (positive : 0 < duration.nanos) :
    ∃ mantissa exponent, duration.toBinary64 = .finite false mantissa exponent ∧
      duration.exactSeconds * (1 - roundoff) ^ 2 ≤ value mantissa exponent ∧
      value mantissa exponent ≤ duration.exactSeconds * (1 + roundoff) ^ 2 := by
  have below := roundoff_lt
  have above := roundoff_pos
  have bounded := duration.exact_seconds_lt
  have factor : (1 + roundoff) ^ 2 ≤ 2 := by nlinarith
  refine (seconds_within positive).exists_finite (lt_overflow ?_)
  calc duration.exactSeconds * (1 + roundoff) ^ 2 ≤ 2 ^ 64 * 2 := by gcongr
    _ ≤ 2 ^ 100 := by norm_num

theorem of_finite (mantissa : Nat) (exponent : ℤ) :
    ∃ numerator denominator : Nat, 0 < denominator ∧
      ofBinary64? (.finite false mantissa exponent) =
        ofNanos? (roundedQuotient numerator denominator) ∧
      (numerator : ℚ) / denominator = value mantissa exponent * nanosPerSecond := by
  refine ⟨(magnitude mantissa exponent).1 * nanosPerSecond, (magnitude mantissa exponent).2,
    magnitude_pos mantissa exponent, ?_, ?_⟩
  · simp only [ofBinary64?, Bool.false_and, if_neg Bool.false_ne_true]
  · rw [Nat.cast_mul, mul_div_right_comm, magnitude_value]

theorem of_nanos_found {nanos : Nat} (found : ofNanos? nanos = some duration) :
    duration.nanos = nanos := by
  unfold ofNanos? at found
  split at found
  · cases found
    rfl
  · cases found

end Duration

end TaskDispatch
