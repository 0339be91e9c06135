import TaskDispatch.Proofs.Queue.Report
import TaskDispatch.Proofs.Retry.Attempts
import TaskDispatch.Retry.Reconciliation

/-!
# Retry delays

The growing delay never exceeds the greatest one, nor the random delay its own limit. So a policy
whose two limits together are a duration always finds a retry time, and its failure handler makes
one report about the message, with the message's identifier.
-/

namespace TaskDispatch

set_option autoImplicit false

theorem Duration.shorter_nanos (left right : Duration) :
    (left.shorter right).nanos = min left.nanos right.nanos := by
  unfold Duration.shorter
  split
  case isTrue le => exact (Nat.min_eq_left le).symm
  case isFalse gt => exact (Nat.min_eq_right (Nat.le_of_not_ge gt)).symm

namespace RetryPolicy

/-- The longest delay and the longest random delay together are a duration. -/
def Bounded (policy : RetryPolicy) : Prop :=
  policy.maxDelay.nanos + policy.maxJitter.nanos < durationLimit

instance (policy : RetryPolicy) : Decidable policy.Bounded :=
  inferInstanceAs (Decidable (_ < _))

theorem next_delay_le (policy : RetryPolicy) (retried : UInt32) :
    (policy.nextDelay retried).nanos ≤ policy.maxDelay.nanos := by
  unfold nextDelay
  rw [Duration.shorter_nanos]
  exact Nat.min_le_right _ _

theorem jitter_le (policy : RetryPolicy) (draw : Nat) :
    (policy.jitter draw).nanos ≤ policy.maxJitter.nanos := by
  have drawn : draw % (policy.jitterLimit + 1) ≤ policy.maxJitter.millis := by
    have below := Nat.mod_lt draw (Nat.succ_pos policy.jitterLimit)
    exact Nat.le_trans (Nat.lt_succ_iff.mp below) (Nat.min_le_left _ _)
  calc
    (policy.jitter draw).nanos
        = (UInt64.ofNat (draw % (policy.jitterLimit + 1))).toNat * nanosPerMilli := rfl
    _ ≤ draw % (policy.jitterLimit + 1) * nanosPerMilli := by
        apply Nat.mul_le_mul_right
        rw [UInt64.toNat_ofNat']
        exact Nat.mod_le _ _
    _ ≤ policy.maxJitter.millis * nanosPerMilli := Nat.mul_le_mul_right _ drawn
    _ ≤ policy.maxJitter.nanos := Nat.div_mul_le_self _ _

theorem retry_time_exists {policy : RetryPolicy} (bounded : policy.Bounded) (retried : UInt32)
    (now : Timestamp) (draw : Nat) :
    ∃ retryAt, policy.retryAt? retried now draw = some retryAt := by
  have grown := policy.next_delay_le retried
  have random := policy.jitter_le draw
  have fits : (policy.nextDelay retried).nanos + (policy.jitter draw).nanos < durationLimit := by
    unfold Bounded at bounded
    omega
  simp [retryAt?, Duration.add?, Duration.ofNanos?, fits]

/-- What is reported of a message after a failure: it is given up when no retries are left, and
otherwise scheduled again, if the policy finds a time. -/
def decision? (policy : RetryPolicy) (message : TaskMessage) (now : Moment) (draw : Nat) :
    Option Report :=
  if message.retriesLeft = 0 then some .kill
  else (policy.retryAt? message.retried now.wall draw).map .retry

/-- The failure handler of any policy makes the report that is decided on, and no other. Without a
decision it panics and leaves the queue alone. -/
theorem reconcile_decided {κ : Type} [DecidableEq κ] (policy : RetryPolicy)
    (message : TaskMessage) (error : TaskError) (now : Moment) (draw : Nat)
    (queue : MemoryQueue κ) :
    let outcome := policy.reconcile MemoryQueue.backend message error now draw queue
    match policy.decision? message now draw with
    | none => outcome.state = queue ∧ outcome.panicked = true
    | some report =>
        outcome.state = (queue.report (message.afterFailure error.message) report).state ∧
          outcome.panicked =
            (queue.report (message.afterFailure error.message) report).hasPanicked := by
  have same : ({ message with errorMessage := some error.message } :
      TaskMessage).retryExhausted = true ↔ message.retriesLeft = 0 := TaskMessage.exhausted_iff
  unfold reconcile TaskMessage.afterFailure decision?
  by_cases exhausted : message.retriesLeft = 0
  · have givenUp := same.mpr exhausted
    rw [if_pos givenUp, if_pos exhausted, if_pos givenUp]
    exact ⟨rfl, rfl⟩
  · have retried := fun used => exhausted (same.mp used)
    rw [if_neg retried, if_neg exhausted, if_neg retried]
    cases policy.retryAt? message.retried now.wall draw <;> exact ⟨rfl, rfl⟩

theorem decision_exists {policy : RetryPolicy} (bounded : policy.Bounded) (message : TaskMessage)
    (now : Moment) (draw : Nat) :
    ∃ report, policy.decision? message now draw = some report ∧
      if message.retriesLeft = 0 then report = .kill else ∃ retryAt, report = .retry retryAt := by
  unfold decision?
  by_cases exhausted : message.retriesLeft = 0
  · simp only [if_pos exhausted]
    exact ⟨.kill, rfl, rfl⟩
  · obtain ⟨retryAt, found⟩ := retry_time_exists bounded message.retried now.wall draw
    simp only [if_neg exhausted, found]
    exact ⟨.retry retryAt, rfl, retryAt, rfl⟩

/-- What the failure handler of such a policy reports: the message after the failure is given up if
no retries were left, and otherwise scheduled again. -/
theorem reconcile_cases {κ : Type} [DecidableEq κ] {policy : RetryPolicy}
    (bounded : policy.Bounded) (message : TaskMessage) (error : TaskError) (now : Moment)
    (draw : Nat) (queue : MemoryQueue κ) :
    ∃ report : Report,
      (if message.retriesLeft = 0 then report = .kill else ∃ retryAt, report = .retry retryAt) ∧
        (policy.reconcile MemoryQueue.backend message error now draw queue).state =
          (queue.report (message.afterFailure error.message) report).state ∧
        (policy.reconcile MemoryQueue.backend message error now draw queue).panicked =
          (queue.report (message.afterFailure error.message) report).hasPanicked := by
  obtain ⟨report, decided, kind⟩ := decision_exists bounded message now draw
  have reported := policy.reconcile_decided message error now draw queue
  rw [decided] at reported
  exact ⟨report, kind, reported⟩

/-- The failure handler of such a policy gives the message up or retries it, and does no more. -/
theorem reconcile_reports {κ : Type} [DecidableEq κ] {policy : RetryPolicy}
    (bounded : policy.Bounded) (message : TaskMessage) (error : TaskError) (now : Moment)
    (draw : Nat) (queue : MemoryQueue κ) :
    ∃ (version : TaskMessage) (report : Report),
      version.id = message.id ∧ report ≠ .complete ∧
        (policy.reconcile MemoryQueue.backend message error now draw queue).state =
          (queue.report version report).state ∧
        (policy.reconcile MemoryQueue.backend message error now draw queue).panicked =
          (queue.report version report).hasPanicked := by
  obtain ⟨report, kind, same⟩ := reconcile_cases bounded message error now draw queue
  refine ⟨_, report, message.after_failure_id error.message, ?_, same⟩
  split at kind
  · rw [kind]
    simp
  · obtain ⟨retryAt, rfl⟩ := kind
    simp

end RetryPolicy

end TaskDispatch
