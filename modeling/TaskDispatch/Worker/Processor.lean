import TaskDispatch.Config
import TaskDispatch.Lifecycle
import TaskDispatch.Worker.Crew

/-!
# Processors

A processor runs the tasks of a backend on a crew. Starting makes unfinished tasks pending again
and then starts the dispatch loop. Terminating sets the stop flag, waits for the loop to end, and
then takes every slot: when it has them all, no runner is left.
-/

namespace TaskDispatch

set_option autoImplicit false

/-- How far a termination is: none under way; waiting for the loop; taking the slots one by one,
`gathered` of which it has; or ended by a panic, because there are too many slots to take. -/
inductive ClosingStage where
  | idle
  | joining
  | draining (gathered : Nat) (queued : Bool)
  | crashed
  deriving DecidableEq

def ClosingStage.hasEnded : ClosingStage → Bool
  | .idle => true
  | .crashed => true
  | _ => false

structure Processor (β : Type) where
  config : ProcessorConfig
  failure : FailureHandler Party β
  state : ProcessorState
  crew : Crew
  closing : ClosingStage

/-- How a start ended: it was not allowed, the loop has been started, or the backend panicked. -/
inductive StartOutcome (β η : Type) where
  | refused (error : LifecycleError)
  | started (processor : Processor β) (shared : Shared β η)
  | panicked (shared : Shared β η)

namespace Processor

variable {β η : Type}

def new? (config : ProcessorConfig) (failure : FailureHandler Party β) :
    Option (Processor β) :=
  (Crew.new? config.concurrency.toNat).map fun crew =>
    { config := config, failure := failure, state := .created, crew := crew, closing := .idle }

def inFlight (processor : Processor β) : Nat := processor.crew.slots.inFlight

def restoreLog : Except CallFailure Nat → List LogEntry
  | .ok 0 => []
  | .ok count => [.restored count]
  | .error (.refused error) => [.restoreFailed error]
  | .error .panicked => []

/-- Starts a processor: makes unfinished tasks pending again, then starts the dispatch loop. A
refusal to restore is only logged; a panic leaves the processor as it was. -/
def start (plant : Plant β η) (index : Nat) (now : Moment) (processor : Processor β)
    (shared : Shared β η) : StartOutcome β η :=
  match processor.state.ensureCanBecome .running with
  | .error error => .refused error
  | .ok () =>
      let shared := shared.log [.processorStarting processor.crew.slots.capacity]
      let reply := plant.backend.restore shared.backend
      let shared := (shared.absorb now.clock reply).log (restoreLog reply.answer)
      if reply.hasPanicked then .panicked shared
      else
        .started
          { processor with
            state := .running
            crew := { processor.crew with loop := .checking } }
          (shared.wake [.loop index])

def terminate (processor : Processor β) (shared : Shared β η) :
    Except LifecycleError (Processor β × Shared β η) := do
  processor.state.ensureCanBecome .terminating
  .ok
    ({ processor with
        state := .terminating
        crew := { processor.crew with stop := true }
        closing := .joining },
      shared.log [.shuttingDown])

def advanceClosing (index : Nat) (processor : Processor β) (shared : Shared β η) :
    Option (Processor β × Shared β η) :=
  match processor.closing with
  | .idle => none
  | .crashed => none
  | .joining =>
      if processor.crew.loop.hasEnded then
        let abnormal : List LogEntry :=
          if processor.crew.loop = .crashed then [.loopCrashed] else []
        let next : ClosingStage :=
          if processor.crew.slots.capacity ≤ drainLimit then .draining 0 false else .crashed
        some
          ({ processor with closing := next },
            shared.log (abnormal ++ [.waitingForWorkers processor.inFlight]))
      else none
  | .draining gathered true => do
      let slots ← processor.crew.slots.takeGranted? (.owner index)
      some
        ({ processor with
            crew := { processor.crew with slots := slots }
            closing := .draining (gathered + 1) false },
          shared)
  | .draining gathered false =>
      if gathered = processor.crew.slots.capacity then
        let (slots, woken) := processor.crew.slots.releaseMany gathered
        some
          ({ processor with
              state := .terminated
              crew := { processor.crew with slots := slots }
              closing := .idle },
            (shared.log [.workersFinished]).wake woken)
      else
        let (slots, given) := processor.crew.slots.request (.owner index)
        some
          ({ processor with
              crew := { processor.crew with slots := slots }
              closing :=
                if given then .draining (gathered + 1) false else .draining gathered true },
            shared)

/-- Drops a processor. One that is running stops fetching; its runners are not waited for. -/
def abandon (processor : Processor β) (shared : Shared β η) : Processor β × Shared β η :=
  if processor.state = .running then
    ({ processor with crew := { processor.crew with stop := true } },
      shared.log [.droppedWhileRunning])
  else (processor, shared)

end Processor

end TaskDispatch
