import Mathlib.Algebra.Group.Nat.Defs
import TaskDispatch.Proofs.Retry.Delay

/-!
# Retry times

A retry time is the present time plus the growing delay plus a whole number of milliseconds, cut
off at the latest timestamp. The sum of the two delays is a duration and is not cut off: it has to
stay below `2 ^ 64` seconds, or there is no retry time at all. `retry_time` says for every policy
which draws find a time, and which time that is; `unlimited_policy_finds_no_time` shows a policy
with the longest durations at a draw that finds none.
-/

namespace TaskDispatch

set_option autoImplicit false

namespace Timestamp

theorem later_nanos (now : Timestamp) (delay : Duration) :
    (now.later delay).nanos = min (now.nanos + delay.nanos) latestNanos := by
  unfold later
  split
  case isTrue notLater => exact (Int.min_eq_left notLater).symm
  case isFalse beyond => exact (Int.min_eq_right (Int.le_of_lt (Int.not_le.mp beyond))).symm

theorem le_later (now : Timestamp) (delay : Duration) : now ≤ now.later delay := by
  have notLater := now.notLater
  change now.nanos ≤ (now.later delay).nanos
  rw [later_nanos]
  omega

end Timestamp

theorem Duration.add_nanos (left right : Duration) :
    (left.add? right).map Duration.nanos =
      if left.nanos + right.nanos < durationLimit then some (left.nanos + right.nanos)
      else none := by
  unfold Duration.add? Duration.ofNanos?
  split <;> rfl

namespace RetryPolicy

def jitterMillis (policy : RetryPolicy) (draw : Nat) : Nat := draw % (policy.jitterLimit + 1)

def wait (policy : RetryPolicy) (retried : UInt32) (draw : Nat) : Nat :=
  (policy.nextDelay retried).nanos + policy.jitterMillis draw * nanosPerMilli

theorem jitter_millis_le_limit (policy : RetryPolicy) (draw : Nat) :
    policy.jitterMillis draw ≤ policy.jitterLimit :=
  Nat.lt_succ_iff.mp (Nat.mod_lt draw (Nat.succ_pos policy.jitterLimit))

/-- Every whole number of milliseconds up to the limit is drawn. -/
theorem jitter_millis_of_limit {policy : RetryPolicy} {millis : Nat}
    (within : millis ≤ policy.jitterLimit) : policy.jitterMillis millis = millis :=
  Nat.mod_eq_of_lt (Nat.lt_succ_iff.mpr within)

theorem jitter_limit_le_millis (policy : RetryPolicy) :
    policy.jitterLimit ≤ policy.maxJitter.millis := Nat.min_le_left _ _

theorem jitter_limit_lt (policy : RetryPolicy) : policy.jitterLimit < 2 ^ 64 := by
  have bound : policy.jitterLimit ≤ Nat.pow 2 64 - 1 := Nat.min_le_right _ _
  have width : Nat.pow 2 64 = 2 ^ 64 := rfl
  omega

theorem jitter_nanos (policy : RetryPolicy) (draw : Nat) :
    (policy.jitter draw).nanos = policy.jitterMillis draw * nanosPerMilli := by
  have word : policy.jitterMillis draw < 2 ^ 64 :=
    Nat.lt_of_le_of_lt (policy.jitter_millis_le_limit draw) policy.jitter_limit_lt
  change (UInt64.ofNat (policy.jitterMillis draw)).toNat * nanosPerMilli = _
  rw [UInt64.toNat_ofNat', Nat.mod_eq_of_lt word]

theorem jitter_millis_within (policy : RetryPolicy) (draw : Nat) :
    policy.jitterMillis draw * nanosPerMilli ≤ policy.maxJitter.nanos := by
  rw [← policy.jitter_nanos draw]
  exact policy.jitter_le draw

theorem wait_le (policy : RetryPolicy) (retried : UInt32) (draw : Nat) :
    policy.wait retried draw ≤ policy.maxDelay.nanos + policy.maxJitter.nanos :=
  Nat.add_le_add (policy.next_delay_le retried) (policy.jitter_millis_within draw)

/-- The retry time is the end of the wait or the latest timestamp, if the wait is a duration. -/
theorem retry_time_nanos (policy : RetryPolicy) (retried : UInt32) (now : Timestamp)
    (draw : Nat) :
    (policy.retryAt? retried now draw).map Timestamp.nanos =
      if policy.wait retried draw < durationLimit then
        some (min (now.nanos + policy.wait retried draw) latestNanos)
      else none := by
  have sum := Duration.add_nanos (policy.nextDelay retried) (policy.jitter draw)
  rw [jitter_nanos] at sum
  change _ = if policy.wait retried draw < durationLimit then some (policy.wait retried draw)
    else none at sum
  unfold retryAt?
  cases found : (policy.nextDelay retried).add? (policy.jitter draw) with
  | none =>
    rw [found] at sum
    have tooLong : ¬ policy.wait retried draw < durationLimit := by
      intro fits
      rw [if_pos fits] at sum
      cases sum
    rw [if_neg tooLong]
    rfl
  | some delay =>
    rw [found] at sum
    have fits : policy.wait retried draw < durationLimit := by
      by_contra tooLong
      rw [if_neg tooLong] at sum
      cases sum
    rw [if_pos fits] at sum ⊢
    have nanos : delay.nanos = policy.wait retried draw := Option.some.inj sum
    simp only [Option.map_some, Timestamp.later_nanos, nanos]

theorem retry_time_le_now {policy : RetryPolicy} {retried : UInt32} {now retryAt : Timestamp}
    {draw : Nat} (found : policy.retryAt? retried now draw = some retryAt) : now ≤ retryAt := by
  obtain ⟨delay, -, rfl⟩ := Option.map_eq_some_iff.mp found
  exact now.le_later delay

/-- A draw finds a retry time exactly if its wait is a duration. -/
theorem retry_time_found_iff (policy : RetryPolicy) (retried : UInt32) (now : Timestamp)
    (draw : Nat) :
    (policy.retryAt? retried now draw).isSome = true ↔
      policy.wait retried draw < durationLimit := by
  rw [← Option.isSome_map (f := Timestamp.nanos), retry_time_nanos]
  split <;> simp_all

/-- All draws find a retry time exactly if the longest of their waits is a duration. -/
theorem all_retry_times_found_iff (policy : RetryPolicy) (retried : UInt32) (now : Timestamp) :
    (∀ draw, (policy.retryAt? retried now draw).isSome = true) ↔
      (policy.nextDelay retried).nanos + policy.jitterLimit * nanosPerMilli < durationLimit := by
  simp only [retry_time_found_iff]
  constructor
  · intro found
    have longest := found policy.jitterLimit
    rwa [wait, jitter_millis_of_limit (Nat.le_refl _)] at longest
  · intro fits draw
    have drawn := Nat.mul_le_mul_right nanosPerMilli (policy.jitter_millis_le_limit draw)
    exact Nat.lt_of_le_of_lt (Nat.add_le_add_left drawn _) fits

/-- For every policy, number of retries and present time: all draws find a retry time exactly if
the growing delay and the greatest random delay together are a duration, and that is so at least
for the policies whose two limits together are one. Each draw adds a whole number of milliseconds
within the limit, none if the limit has no whole millisecond. It finds the present time plus both
delays, or the latest timestamp if that is earlier, unless the delays together are no duration;
then it finds nothing. What it finds is not before the present time, and not after it by more than
the two limits. -/
theorem retry_time (policy : RetryPolicy) (retried : UInt32) (now : Timestamp) :
    ((∀ draw, (policy.retryAt? retried now draw).isSome = true) ↔
        (policy.nextDelay retried).nanos + policy.jitterLimit * nanosPerMilli < durationLimit) ∧
      (policy.Bounded → ∀ draw, (policy.retryAt? retried now draw).isSome = true) ∧
      ∀ draw, ∃ millis : Nat,
        millis * nanosPerMilli ≤ policy.maxJitter.nanos ∧
          (policy.maxJitter.millis = 0 → millis = 0) ∧
          ((policy.retryAt? retried now draw).map Timestamp.nanos =
            if (policy.nextDelay retried).nanos + millis * nanosPerMilli < durationLimit then
              some (min (now.nanos + ((policy.nextDelay retried).nanos + millis * nanosPerMilli))
                latestNanos)
            else none) ∧
          ∀ retryAt ∈ policy.retryAt? retried now draw,
            now ≤ retryAt ∧
              retryAt.nanos ≤ now.nanos + policy.maxDelay.nanos + policy.maxJitter.nanos := by
  have always := policy.all_retry_times_found_iff retried now
  refine ⟨always, ?_, ?_⟩
  · intro bounded draw
    have within := policy.wait_le retried draw
    rw [retry_time_found_iff]
    unfold Bounded at bounded
    omega
  · intro draw
    have exact := policy.retry_time_nanos retried now draw
    refine ⟨policy.jitterMillis draw, policy.jitter_millis_within draw, ?_, exact, ?_⟩
    · intro noMillis
      have drawn := policy.jitter_millis_le_limit draw
      have limit := policy.jitter_limit_le_millis
      omega
    · intro retryAt found
      have someTime : policy.retryAt? retried now draw = some retryAt := found
      refine ⟨retry_time_le_now someTime, ?_⟩
      have within := policy.wait_le retried draw
      rw [someTime] at exact
      split at exact
      case isTrue =>
        have nanos : retryAt.nanos = min (now.nanos + policy.wait retried draw) latestNanos :=
          Option.some.inj exact
        omega
      case isFalse => cases exact

/-- The policy without limits that are felt: every duration is the longest one. -/
def unlimited : RetryPolicy :=
  let longest : Duration := ⟨durationLimit - 1, by decide⟩
  { baseDelay := longest
    multiplier := .two
    maxJitter := longest
    maxDelay := longest }

/-- The longest delay and a random millisecond are no duration, so there is no retry time, not even
the latest timestamp. -/
theorem unlimited_policy_finds_no_time : unlimited.retryAt? 0 .epoch 1 = none := by
  have growth : Binary64.two.power 0 = .ofNat 1 := by
    unfold Binary64.power Binary64.powerBySquaring
    rfl
  have delay : (unlimited.nextDelay 0).nanos = durationLimit - 1 := by
    unfold nextDelay
    have multiplier : unlimited.multiplier.power (min (0 : UInt32).toNat greatestPower) = .ofNat 1 :=
      growth
    rw [multiplier]
    decide +kernel
  have millis : unlimited.jitterMillis 1 = 1 := by decide +kernel
  have wait : unlimited.wait 0 1 = durationLimit - 1 + nanosPerMilli := by
    unfold wait
    rw [delay, millis, Nat.one_mul]
  have nothing := unlimited.retry_time_found_iff 0 .epoch 1
  rw [wait] at nothing
  exact Option.not_isSome_iff_eq_none.mp fun found => absurd (nothing.mp found) (by decide)

end RetryPolicy

end TaskDispatch
