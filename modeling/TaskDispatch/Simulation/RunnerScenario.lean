import TaskDispatch.Simulation.FailureChoice
import TaskDispatch.Simulation.Stage

/-!
# Scenarios of one message

One execution of a message, by itself or on the only slot of a budget, and one decision of a failure
handler, on a scripted backend.
-/

namespace TaskDispatch.Simulation

open Sample

set_option autoImplicit false

/-- How a message is executed: by itself, or holding a slot. -/
inductive Execution where
  | direct
  | onSlot
  deriving DecidableEq

/-- What is seen of an execution: the events and log lines in order, the numbers of slots held
before, during and after it, and the clock at its end in milliseconds. -/
structure ExecutionRecord where
  events : List String
  logs : List String
  inFlight : List Nat
  millis : Nat

namespace Execution

def initialShared (script : Script) : Shared Bench Audience where
  backend := { memory := .empty, script := some script }
  handlers := .empty
  journal := .empty
  woken := []

def begin : Moment := { clock := 0, wall := Stage.wall }

/-- Lets a runner act until its report has ended, moving the clock to the end of the handler's
pause. -/
def finish (plant : Plant Bench Audience) (failure : FailureHandler Party Bench) :
    Nat → Moment → Runner → Shared Bench Audience → Moment × Runner × Shared Bench Audience
  | 0, now, runner, shared => (now, runner, shared)
  | fuel + 1, now, runner, shared =>
      match runner.advance plant failure now 0 shared, runner.wakeTime with
      | some (runner, shared), _ => finish plant failure fuel now runner shared
      | none, some time =>
          finish plant failure fuel { now with clock := Stage.alarmTick time * nanosPerMilli }
            runner shared
      | none, none => (now, runner, shared)

/-- A runner acts three times and waits at most once. -/
def longest : Nat := 4

def slotsHeld : Execution → List Nat
  | .direct => [0]
  | .onSlot =>
      match (Slots.new? 1 : Option (Slots Party)) with
      | none => []
      | some idle =>
          let (held, _) := idle.request .foreground
          let (returned, _) := held.release
          [idle.inFlight, held.inFlight, returned.inFlight]

def eventTexts (shared : Shared Bench Audience) : List String :=
  shared.journal.events.map fun entry => entry.2.text Stage.wall

def logLines (shared : Shared Bench Audience) : List String :=
  shared.journal.logs.map LogEntry.line

def run? (execution : Execution) (handler : Handler Audience) (failure : FailureChoice)
    (script : Script) (message : TaskMessage) : Option ExecutionRecord :=
  let plant : Plant Bench Audience := { backend := Bench.backend, handler := handler }
  let (now, runner, shared) :=
    finish plant failure.handler longest begin { ticket := 0, message, stage := .ready }
      (initialShared script)
  match runner.stage with
  | .crashed => none
  | _ =>
      some
        { events := eventTexts shared
          logs := logLines shared
          inFlight := execution.slotsHeld
          millis := now.clock / nanosPerMilli }

/-- The events and log lines of one decision about a failed task. There are none if the failure
handler panics. -/
def decideFailure? (failure : FailureChoice) (script : Script) (message : TaskMessage)
    (error : TaskError) : Option (List String × List String) :=
  let shared := initialShared script
  let outcome := failure.handler message error begin 0 shared.backend
  if outcome.panicked then none
  else
    some
      (outcome.events.map (Event.text Stage.wall), outcome.logs.map LogEntry.line)

end Execution

end TaskDispatch.Simulation
