import TaskDispatch.Proofs.Number.Enclosure
import TaskDispatch.Retry.Policy

/-!
# Delays that grow from nothing

With a base delay of zero the delay is to be zero after any number of retries, since zero times any
growth is zero. It is so as long as the growth is a finite number. The growth is computed by itself,
though, and when it is infinite the product is no number, which counts as the greatest delay. So
retries that have been immediate a thousand times may suddenly wait for a day.
-/

namespace TaskDispatch

set_option autoImplicit false

open Binary64

namespace Binary64

def isFinite : Binary64 → Bool
  | .finite .. => true
  | _ => false

theorem AtMostOne.is_finite {number : Binary64} (small : AtMostOne number) :
    number.isFinite = true := by
  cases number with
  | nan | infinite => cases small
  | finite => rfl

theorem mul_zero_finite (negative : Bool) (mantissa : Nat) (exponent : ℤ) :
    mul zero (.finite negative mantissa exponent) =
      .finite (false != negative) 0 leastExponent := by
  simp only [zero, mul, magnitude, ofRatio, Nat.zero_mul, if_true]

/-- A power of a factor that is at most one is finite; one of a greater factor is finite or not if
its exact value is, with room for the rounding of every multiplication. -/
theorem power_finite {negative : Bool} {mantissa : Nat} (exponent : ℤ) (count : Nat)
    (unsigned : negative = true → mantissa = 0) :
    (value mantissa exponent ≤ 1 →
        (power (.finite negative mantissa exponent) count).isFinite = true) ∧
      ((value mantissa exponent * (1 + roundoff)) ^ count < overflow →
        (power (.finite negative mantissa exponent) count).isFinite = true) ∧
      (overflow ≤ (value mantissa exponent * (1 - roundoff)) ^ count →
        (power (.finite negative mantissa exponent) count).isFinite = false) := by
  have shrinking (small : value mantissa exponent ≤ 1) :
      (power (.finite negative mantissa exponent) count).isFinite = true :=
    (power_at_most_one
      (show AtMostOne (.finite negative mantissa exponent) from small) count).is_finite
  have roundingPos := roundoff_pos
  have roundingLt := roundoff_lt_one
  rcases le_or_gt (value mantissa exponent) 1 with small | growing
  · refine ⟨shrinking, fun _ => shrinking small, ?_⟩
    intro great
    have nonneg := value_nonneg mantissa exponent
    have below : (value mantissa exponent * (1 - roundoff)) ^ count ≤ 1 := by
      apply pow_le_one₀
      · exact mul_nonneg nonneg (by linarith)
      · exact mul_le_one₀ small (by linarith) (by linarith)
    exact absurd (great.trans below) (not_le.mpr one_lt_overflow)
  · have positive : negative = false := by
      apply Bool.eq_false_iff.mpr
      intro signed
      exact mantissa_ne_zero exponent (one_pos.trans growing) (unsigned signed)
    subst positive
    have grown := power_grown growing.le count
    have proper := power_proper (.finite false mantissa exponent) count
    generalize power (.finite false mantissa exponent) count = result at *
    refine ⟨shrinking, ?_, ?_⟩
    · intro less
      obtain ⟨_, _, rfl, _⟩ := grown.exists_finite less
      rfl
    · intro great
      cases grown with
      | infinite => rfl
      | finite below =>
          exact absurd (great.trans ((le_max_right _ _).trans below)) (not_le.mpr proper)

theorem power_two_infinite {count : Nat} (many : 1024 ≤ count) :
    power two count = .infinite false := by
  have exact := power_two_within count
  have proper := power_proper two count
  generalize power two count = result at exact proper
  cases exact with
  | infinite => rfl
  | finite below =>
      have great : overflow ≤ 2 ^ count := by
        rw [← zpow_natCast]
        exact zpow_le_zpow_right₀ one_le_two (by exact_mod_cast many)
      exact absurd (great.trans below) (not_le.mpr proper)

end Binary64

theorem Duration.zero_seconds : Duration.zero.toBinary64 = Binary64.zero := by
  decide +kernel

/-- Zero seconds times a growth are no time if the growth is finite, and no duration otherwise. -/
theorem Duration.zero_grown (growth : Binary64) :
    Duration.ofBinary64? (mul Duration.zero.toBinary64 growth) =
      if growth.isFinite then some .zero else none := by
  have noTime : ∀ negative,
      Duration.ofBinary64? (.finite negative 0 leastExponent) = some .zero := by decide +kernel
  rw [Duration.zero_seconds]
  cases growth with
  | nan | infinite => rfl
  | finite negative mantissa exponent =>
      rw [mul_zero_finite, noTime]
      rfl

namespace RetryPolicy

variable {policy : RetryPolicy}

theorem zero_base_next_delay (immediate : policy.baseDelay = .zero) (retried : UInt32) :
    policy.nextDelay retried =
      if (policy.multiplier.power (min retried.toNat greatestPower)).isFinite then .zero
      else policy.maxDelay := by
  unfold nextDelay
  simp only
  rw [immediate, Duration.zero_grown]
  split
  · exact if_pos (Nat.zero_le _)
  · exact if_pos (Nat.le_refl _)

/-- If the base delay is zero and the multiplier is finite and not negative, the delay is zero as
long as the growth is finite, and the greatest delay otherwise. The growth is finite for a
multiplier that is at most one; for a greater one it depends on whether its power is less than
`2 ^ 1024`, up to the rounding of every multiplication. -/
theorem zero_base_delay {negative : Bool} {mantissa : Nat} {exponent : ℤ}
    (immediate : policy.baseDelay = .zero)
    (finite : policy.multiplier = .finite negative mantissa exponent)
    (unsigned : negative = true → mantissa = 0) (retried : UInt32) :
    let count := min retried.toNat greatestPower
    let factor := value mantissa exponent
    (policy.nextDelay retried =
        if (policy.multiplier.power count).isFinite then .zero else policy.maxDelay) ∧
      (factor ≤ 1 → policy.nextDelay retried = .zero) ∧
      ((factor * (1 + roundoff)) ^ count < overflow → policy.nextDelay retried = .zero) ∧
      (overflow ≤ (factor * (1 - roundoff)) ^ count →
        policy.nextDelay retried = policy.maxDelay) := by
  intro count factor
  have delay := zero_base_next_delay immediate retried
  obtain ⟨shrinking, short, great⟩ := power_finite exponent count unsigned
  rw [← finite] at shrinking short great
  refine ⟨delay, ?_, ?_, ?_⟩
  · intro small
    rw [delay, if_pos (shrinking small)]
  · intro less
    rw [delay, if_pos (short less)]
  · intro beyond
    rw [delay, if_neg (Bool.eq_false_iff.mp (great beyond))]

def quadrupled : RetryPolicy :=
  { default with baseDelay := .zero, multiplier := .finite false (Nat.pow 2 52) (-50) }

theorem quadrupled_delays :
    quadrupled.nextDelay 20 = .zero ∧ quadrupled.nextDelay 1024 = quadrupled.maxDelay := by
  have four : value (Nat.pow 2 52) (-50) = 4 := by
    rw [Nat.pow_eq, value_two_pow]
    norm_num
  have below := roundoff_lt
  have above := roundoff_pos
  have base : quadrupled.baseDelay = .zero := rfl
  have multiplier : quadrupled.multiplier = .finite false (Nat.pow 2 52) (-50) := rfl
  constructor
  · apply (zero_base_delay base multiplier (by decide) 20).2.2.1
    rw [four]
    apply lt_overflow
    calc (4 * (1 + roundoff)) ^ 20 ≤ 5 ^ 20 := by
          gcongr
          linarith
      _ ≤ 2 ^ 100 := by norm_num
  · apply (zero_base_delay base multiplier (by decide) 1024).2.2.2
    rw [four]
    calc overflow = 2 ^ 1024 := zpow_natCast 2 1024
      _ ≤ (4 * (1 - roundoff)) ^ 1024 := by
          gcongr
          linarith

def immediate : RetryPolicy := { default with baseDelay := .zero }

/-- The growth after 1024 retries is infinite, and the delay a day. -/
theorem immediate_retry_waits_a_day : immediate.nextDelay 1024 = .ofSeconds 86400 := by
  rw [zero_base_next_delay rfl]
  have infinite : immediate.multiplier.power (min (1024 : UInt32).toNat greatestPower) =
      .infinite false := power_two_infinite (by decide)
  rw [infinite]
  rfl

end RetryPolicy

end TaskDispatch
