import TaskDispatch.Time.Timestamp

/-!
# Retry policy

When a failed task is tried again: a base delay that grows by a constant factor with every retry,
up to a greatest delay, and on top of it a random whole number of milliseconds. The growth is
computed in double precision.
-/

namespace TaskDispatch

set_option autoImplicit false

structure RetryPolicy where
  baseDelay : Duration
  multiplier : Binary64
  maxJitter : Duration
  maxDelay : Duration
  deriving DecidableEq

namespace RetryPolicy

/-- Two seconds, doubled with every retry up to a day, and up to one second more. -/
def default : RetryPolicy where
  baseDelay := .ofSeconds 2
  multiplier := .two
  maxJitter := .ofSeconds 1
  maxDelay := .ofSeconds 86400

instance : Inhabited RetryPolicy := ⟨default⟩

abbrev greatestPower : Nat := 2147483647

/-- The delay after that many retries, without the random part. A product that is no duration
counts as the greatest delay. -/
def nextDelay (policy : RetryPolicy) (retried : UInt32) : Duration :=
  let growth := policy.multiplier.power (min retried.toNat greatestPower)
  let seconds := Binary64.mul policy.baseDelay.toBinary64 growth
  ((Duration.ofBinary64? seconds).getD policy.maxDelay).shorter policy.maxDelay

def jitterLimit (policy : RetryPolicy) : Nat := min policy.maxJitter.millis (Nat.pow 2 64 - 1)

def jitter (policy : RetryPolicy) (draw : Nat) : Duration :=
  .ofMillis (UInt64.ofNat (draw % (policy.jitterLimit + 1)))

/-- The draw in the middle: as many draws bring a longer delay as a shorter one, up to one. -/
def middleDraw (policy : RetryPolicy) : Nat := policy.jitterLimit / 2

/-- When a task that has been retried that often is tried again, but not after the latest
timestamp. There is no answer if the two delays together are too long for a duration. -/
def retryAt? (policy : RetryPolicy) (retried : UInt32) (now : Timestamp) (draw : Nat) :
    Option Timestamp :=
  ((policy.nextDelay retried).add? (policy.jitter draw)).map now.later

structure Spread where
  earliest : Timestamp
  latest : Timestamp
  inRange : Bool
  wholeMillis : Bool
  varies : Bool

abbrev trials : Nat := 64

/-- Draws that stand for as many random ones: the middles of equal parts of the range. -/
def trialDraws (policy : RetryPolicy) : List Nat :=
  (List.range trials).map fun part =>
    (2 * part + 1) * (policy.jitterLimit + 1) / (2 * trials)

/-- The spread of the retry times, unless there is no random part: the earliest time, the latest
that the policy allows, and whether the times stay between them, differ from the earliest by whole
milliseconds, and differ at all. -/
def spread? (policy : RetryPolicy) (retried : UInt32) (now : Timestamp) : Option Spread :=
  if policy.jitterLimit = 0 then none
  else do
    let earliest ← policy.retryAt? retried now 0
    let times ← policy.trialDraws.mapM (policy.retryAt? retried now)
    let latest := earliest.later policy.maxJitter
    some
      { earliest := earliest
        latest := latest
        inRange := times.all fun time => decide (earliest ≤ time ∧ time ≤ latest)
        wholeMillis := times.all fun time => earliest.nanosUntil time % nanosPerMilli == 0
        varies := times.any fun time => decide (some time ≠ times.head?) }

end RetryPolicy

end TaskDispatch
