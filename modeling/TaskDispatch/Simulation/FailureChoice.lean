import TaskDispatch.Simulation.Script

/-!
# Failure handlers of simulations

A simulated processor has a retry policy, or a failure handler that only leaves an event. In a
simulation a policy always draws the middle of its range, whatever draw it is given: what most draws
bring about, a panic included, is then what is seen.
-/

namespace TaskDispatch.Simulation

set_option autoImplicit false

/-- What becomes of failed tasks: a retry policy decides, or the failure is only recorded. -/
inductive FailureChoice where
  | policy (backoff : RetryPolicy)
  | record

def FailureChoice.handler : FailureChoice → FailureHandler Party Bench
  | .policy backoff => fun message error now _ =>
      backoff.reconcile Bench.backend message error now backoff.middleDraw
  | .record => recordFailure

end TaskDispatch.Simulation
