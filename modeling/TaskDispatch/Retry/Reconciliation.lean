import TaskDispatch.Queue.Backend
import TaskDispatch.Retry.Policy
import TaskDispatch.Observation.Log

/-!
# Failure handling

What becomes of a task whose handler failed. A failure handler reports to the backend as it sees
fit. The one of a retry policy makes exactly one report: the message, with the text of the failure,
is scheduled again, or is given up when its retries are used up.
-/

namespace TaskDispatch

set_option autoImplicit false

/-- What a failure handler did. `panicked` tells that it did not return. -/
structure Reconciliation (κ β : Type) where
  state : β
  woken : List κ
  events : List Event
  logs : List LogEntry
  panicked : Bool

/-- Decides about a failed task. The number is the random draw of this decision. -/
abbrev FailureHandler (κ β : Type) :=
  TaskMessage → TaskError → Moment → Nat → β → Reconciliation κ β

def recordFailure {κ β : Type} : FailureHandler κ β := fun message error _ _ state =>
  { state := state
    woken := []
    events := [.failureHandled message error]
    logs := []
    panicked := false }

def refusalLog {α : Type} (answer : Except CallFailure α) (entry : BackendError → LogEntry) :
    List LogEntry :=
  match answer with
  | .error (.refused error) => [entry error]
  | _ => []

def RetryPolicy.reconcile {κ β : Type} (policy : RetryPolicy) (backend : Backend κ β) :
    FailureHandler κ β := fun message error now draw state =>
  let message := { message with errorMessage := some error.message }
  if message.retryExhausted then
    let reply := backend.kill message state
    { state := reply.state
      woken := reply.woken
      events := reply.events
      logs := .exhausted message :: refusalLog reply.answer (.killFailed message.id)
      panicked := reply.hasPanicked }
  else
    match policy.retryAt? message.retried now.wall draw with
    | none => { state := state, woken := [], events := [], logs := [], panicked := true }
    | some retryAt =>
        let message := { message with retried := message.retried + 1 }
        let reply := backend.retry message retryAt state
        { state := reply.state
          woken := reply.woken
          events := reply.events
          logs := .retrying message :: refusalLog reply.answer (.retryFailed message.id)
          panicked := reply.hasPanicked }

end TaskDispatch
