import TaskDispatch.Worker.Shared

/-!
# Runners

A runner executes one message: it calls the handler once, waits for it to end, and makes one report:
completion if the handler succeeded, the failure handler otherwise. It gives its slot back only
after the report has ended, also if that panicked.
-/

namespace TaskDispatch

set_option autoImplicit false

/-- Where a runner is: not begun; the handler at work until a clock reading; the handler has ended
and the report is due; or the report has ended, by a panic or not, and the slot is still held. -/
inductive RunnerStage where
  | ready
  | handling (finish : Nat) (call : HandlerCall)
  | reporting (result : Except TaskError Unit)
  | reported
  | crashed

def RunnerStage.hasEnded : RunnerStage → Bool
  | .reported => true
  | .crashed => true
  | _ => false

structure Runner where
  ticket : Nat
  message : TaskMessage
  stage : RunnerStage

namespace Runner

variable {β η : Type}

def callHandler (plant : Plant β η) (now : Moment) (runner : Runner) (shared : Shared β η) :
    Runner × Shared β η :=
  let (call, handlers) := plant.handler runner.message.task shared.handlers
  ({ runner with stage := .handling (now.clock + call.pause) call },
    ({ shared with handlers := handlers } : Shared β η).note now.clock call.before)

def reportSuccess (plant : Plant β η) (now : Moment) (message : TaskMessage)
    (shared : Shared β η) : RunnerStage × Shared β η :=
  let reply := plant.backend.complete message shared.backend
  (if reply.hasPanicked then .crashed else .reported,
    ((shared.log [.succeeded message]).absorb now.clock reply).log
      (refusalLog reply.answer (.completeFailed message.id)))

def reportFailure (failure : FailureHandler Party β) (now : Moment) (draw : Nat)
    (message : TaskMessage) (error : TaskError) (shared : Shared β η) :
    RunnerStage × Shared β η :=
  let outcome := failure message error now draw shared.backend
  (if outcome.panicked then .crashed else .reported,
    ((({ shared with backend := outcome.state } : Shared β η).log
      (.failed message error :: outcome.logs)).note now.clock outcome.events).wake outcome.woken)

/-- Advances a runner by one atomic step. There is none while the handler is at work, nor after the
report. -/
def advance (plant : Plant β η) (failure : FailureHandler Party β) (now : Moment) (draw : Nat)
    (runner : Runner) (shared : Shared β η) : Option (Runner × Shared β η) :=
  match runner.stage with
  | .ready => some (runner.callHandler plant now shared)
  | .handling finish call =>
      if finish ≤ now.clock then
        some
          ({ runner with stage := .reporting call.verdict.result },
            shared.note now.clock call.after)
      else none
  | .reporting (.ok ()) =>
      let (stage, shared) := reportSuccess plant now runner.message shared
      some ({ runner with stage := stage }, shared)
  | .reporting (.error error) =>
      let (stage, shared) := reportFailure failure now draw runner.message error shared
      some ({ runner with stage := stage }, shared)
  | .reported => none
  | .crashed => none

def wakeTime (runner : Runner) : Option Nat :=
  match runner.stage with
  | .handling finish _ => some finish
  | _ => none

end Runner

end TaskDispatch
