import TaskDispatch.Proofs.Worker.Ownership
import TaskDispatch.Proofs.Worker.Reporting

/-!
# What a runner reports

When a handler has ended, a runner of a processor with any retry policy makes one report on the
queue in memory, or none if the policy finds no retry time. The version of the message in this
report has the same identifier, and the same ceiling: the count of retries that failures lead to at
most. A message that is given up has reached its ceiling.
-/

namespace TaskDispatch

set_option autoImplicit false

namespace TaskMessage

/-- The count of retries that failures lead to at most. -/
def ceiling (message : TaskMessage) : Nat := max message.retry.toNat message.retried.toNat

theorem retried_le_ceiling (message : TaskMessage) : message.retried.toNat ≤ message.ceiling :=
  Nat.le_max_right _ _

theorem retried_of_exhausted {message : TaskMessage} (exhausted : message.retriesLeft = 0) :
    message.retried.toNat = message.ceiling := by
  unfold retriesLeft at exhausted
  unfold ceiling
  omega

theorem after_failure_retry (message : TaskMessage) (text : String) :
    (message.afterFailure text).retry = message.retry := by
  rw [after_failure_rest]

theorem after_failure_ceiling (message : TaskMessage) (text : String) :
    (message.afterFailure text).ceiling = message.ceiling := by
  have counted := message.after_failure_retried text
  unfold ceiling
  rw [after_failure_retry, counted]
  unfold retriesLeft
  omega

theorem after_failure_retried_le (message : TaskMessage) (text : String) :
    message.retried.toNat ≤ (message.afterFailure text).retried.toNat := by
  rw [after_failure_retried]
  exact Nat.le_add_right _ _

end TaskMessage

namespace RetryPolicy

def call? (policy : RetryPolicy) (message : TaskMessage) (now : Moment) (draw : Nat) :
    Except TaskError Unit → Option ReportCall
  | .ok () => some ⟨message, .complete⟩
  | .error error =>
      (policy.decision? message now draw).map fun report =>
        ⟨message.afterFailure error.message, report⟩

variable {policy : RetryPolicy} {message : TaskMessage} {now : Moment} {draw : Nat}
  {result : Except TaskError Unit} {call : ReportCall}

theorem call_cases (made : policy.call? message now draw result = some call) :
    (result = .ok () ∧ call = ⟨message, .complete⟩) ∨
      ∃ error report, result = .error error ∧
        policy.decision? message now draw = some report ∧
        call = ⟨message.afterFailure error.message, report⟩ := by
  cases result with
  | ok =>
    cases made
    exact .inl ⟨rfl, rfl⟩
  | error error =>
    obtain ⟨report, decided, same⟩ := Option.map_eq_some_iff.mp made
    exact .inr ⟨error, report, rfl, decided, same.symm⟩

theorem call_id (made : policy.call? message now draw result = some call) :
    call.message.id = message.id := by
  obtain ⟨-, rfl⟩ | ⟨error, report, -, -, rfl⟩ := call_cases made
  · rfl
  · exact message.after_failure_id error.message

theorem call_ceiling (made : policy.call? message now draw result = some call) :
    call.message.ceiling = message.ceiling := by
  obtain ⟨-, rfl⟩ | ⟨error, report, -, -, rfl⟩ := call_cases made
  · rfl
  · exact message.after_failure_ceiling error.message

theorem call_retried_le (made : policy.call? message now draw result = some call) :
    message.retried.toNat ≤ call.message.retried.toNat := by
  obtain ⟨-, rfl⟩ | ⟨error, report, -, -, rfl⟩ := call_cases made
  · exact Nat.le_refl _
  · exact message.after_failure_retried_le error.message

theorem retry_decided (made : policy.call? message now draw result = some call)
    {retryAt : Timestamp} (retry : call.report = .retry retryAt) :
    ∃ error, result = .error error ∧
      policy.decision? message now draw = some (.retry retryAt) := by
  obtain ⟨-, rfl⟩ | ⟨error, report, failed, decided, rfl⟩ := call_cases made
  · cases retry
  · exact ⟨error, failed, retry ▸ decided⟩

/-- A message that is given up counts as many retries as it ever can. -/
theorem killed_at_ceiling (made : policy.call? message now draw result = some call)
    (killed : call.report = .kill) : call.message.retried.toNat = message.ceiling := by
  obtain ⟨-, rfl⟩ | ⟨error, report, -, decided, rfl⟩ := call_cases made
  · cases killed
  · obtain rfl : report = .kill := killed
    have exhausted : message.retriesLeft = 0 := by
      by_contra left
      rw [decision?, if_neg left] at decided
      obtain ⟨retryAt, -, retry⟩ := Option.map_eq_some_iff.mp decided
      cases retry
    have noneLeft : (message.afterFailure error.message).retriesLeft = 0 := by
      rw [TaskMessage.after_failure_left, exhausted]
    rw [TaskMessage.retried_of_exhausted noneLeft, TaskMessage.after_failure_ceiling]

end RetryPolicy

namespace MemoryQueue

variable {κ : Type}

/-- The queue after a report, if one is made. -/
def afterCall (queue : MemoryQueue κ) : Option ReportCall → MemoryQueue κ
  | none => queue
  | some call => (queue.report call.message call.report).state

end MemoryQueue

section Runners

variable {η : Type} {policy : RetryPolicy} {handler : Handler η} {index ticket draw : Nat}
  {now : Moment} {crew next : Crew} {queue later : MemoryQueue Party} {handlers changed : η}
  {act : Option Act} {runner : Runner} {result : Except TaskError Unit}

/-- The move of a runner that has its report to make does to the queue what the report does. -/
theorem queue_after_report_move
    (move : RunnerMove (MemoryQueue.setting handler).plant
      (policy.reconcile MemoryQueue.backend) ticket draw now crew queue handlers act next later
      changed)
    (found : crew.runnerOf? ticket = some runner) (reporting : runner.stage = .reporting result) :
    later = queue.afterCall (policy.call? runner.message now draw result) := by
  have same {other : Runner} (foundToo : crew.runnerOf? ticket = some other) : other = runner :=
    Option.some.inj (foundToo.symm.trans found)
  cases move with
  | called foundToo ready =>
    rw [same foundToo, reporting] at ready
    cases ready
  | handled foundToo handling =>
    rw [same foundToo, reporting] at handling
    cases handling
  | completed foundToo succeeded =>
    obtain rfl := same foundToo
    rw [reporting] at succeeded
    cases succeeded
    rfl
  | @failed other error foundToo failed =>
    obtain rfl := same foundToo
    rw [reporting] at failed
    cases failed
    have reported := policy.reconcile_decided other.message error now draw queue
    unfold RetryPolicy.call?
    cases decided : policy.decision? other.message now draw with
    | none =>
      rw [decided] at reported
      exact reported.1
    | some report =>
      rw [decided] at reported
      exact reported.1
  | retired foundToo ended =>
    rw [same foundToo, reporting] at ended
    cases ended

end Runners

end TaskDispatch
