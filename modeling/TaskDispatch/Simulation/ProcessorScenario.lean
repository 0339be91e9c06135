import TaskDispatch.Simulation.FailureChoice
import TaskDispatch.Simulation.Stage

/-!
# Scenarios of a processor

A sequence of steps on at most one current processor and the queue that it works on. Replacing or
dropping a processor does not end what it has begun. After every step all parties act until they
wait; then the step is summed up.
-/

namespace TaskDispatch.Simulation

open Sample

set_option autoImplicit false

/-- A step of a scenario; pauses are in nanoseconds. -/
inductive ProcessorStep where
  | create (config : ProcessorConfig) (failure : FailureChoice)
  | start
  | terminate
  | drop
  | wait (pause : Nat)
  | enqueue (message : TaskMessage)
  | deliver (pause : Nat) (message : TaskMessage)
  | fetch (timeout : Duration)
  | listDead
  | listScheduled

inductive ProcessorAnswer where
  | nothing
  | skipped
  | configured (config : ProcessorConfig)
  | moved (outcome : Except LifecycleError Unit)
  | enqueued (id : TaskId)
  | fetched (message : Option TaskMessage)
  | messages (messages : List TaskMessage)

/-- What is seen after a step: the clock in milliseconds, the answer, the sizes of the queue's
parts, and the state of the current processor with the number of slots that are held. -/
structure ProcessorSnapshot where
  millis : Nat
  answer : ProcessorAnswer
  counts : QueueCounts
  processor : Option (ProcessorState × Nat)

/-- What is left at the end: events in the order of clock and text, the greatest number of handlers
at work at once, what typed handlers were given, and the sorted log lines. -/
structure ProcessorRecord where
  snapshots : List ProcessorSnapshot
  events : List (Nat × String)
  peak : Nat
  seen : List String
  logs : List String

/-- A scenario under way; `current` is the index of the current processor. -/
structure ProcessorScenario where
  stage : Stage
  current : Option Nat

namespace ProcessorScenario

def processor? (scenario : ProcessorScenario) : Option (Nat × Processor Bench) := do
  let index ← scenario.current
  let processor ← scenario.stage.processors[index]?
  some (index, processor)

def abandon (scenario : ProcessorScenario) : Stage :=
  match scenario.processor? with
  | none => scenario.stage
  | some (index, processor) =>
      scenario.stage.setProcessor index (processor.abandon scenario.stage.shared)

/-- Makes a new processor the current one and drops the one before it. There is none with too many
slots. -/
def create? (config : ProcessorConfig) (failure : FailureChoice) (scenario : ProcessorScenario) :
    Option ProcessorScenario := do
  let processor ← Processor.new? config failure.handler
  let stage := scenario.abandon
  some
    { stage := { stage with processors := stage.processors ++ [processor] }
      current := some stage.processors.length }

/-- Starts the current processor. There is no answer if that panics. -/
def start? (scenario : ProcessorScenario) : Option (ProcessorAnswer × ProcessorScenario) :=
  match scenario.processor? with
  | none => some (.skipped, scenario)
  | some (index, processor) =>
      let stage := scenario.stage
      match processor.start stage.plant index stage.now stage.shared with
      | .refused error => some (.moved (.error error), scenario)
      | .started processor shared =>
          some
            (.moved (.ok ()),
              { scenario with stage := stage.setProcessor index (processor, shared) })
      | .panicked _ => none

def terminate? (scenario : ProcessorScenario) : Option (ProcessorAnswer × ProcessorScenario) :=
  match scenario.processor? with
  | none => some (.skipped, scenario)
  | some (index, processor) =>
      match processor.terminate scenario.stage.shared with
      | .error error => some (.moved (.error error), scenario)
      | .ok outcome =>
          let finished (stage : Stage) : Bool :=
            (stage.closingOf index).hasEnded
          let stage :=
            (scenario.stage.setProcessor index outcome).actUntil (.owner index) finished
              Stage.patience
          match stage.closingOf index with
          | .crashed => none
          | _ => some (.moved (.ok ()), { scenario with stage := stage })

/-- Carries out a step, before the others act. The number tells the steps apart. -/
def act? (number : Nat) (step : ProcessorStep) (scenario : ProcessorScenario) :
    Option (ProcessorAnswer × ProcessorScenario) :=
  let stage := scenario.stage
  match step with
  | .create config failure =>
      (scenario.create? config failure).map fun scenario => (.configured config, scenario)
  | .start => scenario.start?
  | .terminate => scenario.terminate?
  | .drop => some (.nothing, { stage := scenario.abandon, current := none })
  | .wait pause => some (.nothing, { scenario with stage := stage.pass pause })
  | .enqueue message =>
      some (.enqueued message.id, { scenario with stage := stage.enqueue message })
  | .deliver pause message =>
      some (.nothing, { scenario with stage := stage.deliver (toString number) pause message })
  | .fetch timeout =>
      let (message, stage) := stage.fetch timeout
      some (.fetched message, { scenario with stage := stage })
  | .listDead => some (.messages stage.memory.store.dead, scenario)
  | .listScheduled =>
      some (.messages (stage.memory.store.scheduledTasks.map Prod.snd), scenario)

def snapshot (answer : ProcessorAnswer) (scenario : ProcessorScenario) : ProcessorSnapshot where
  millis := scenario.stage.millis
  answer := answer
  counts := scenario.stage.counts
  processor := scenario.processor?.map fun entry => (entry.2.state, entry.2.inFlight)

def perform? : Nat → List ProcessorStep → ProcessorScenario →
    Option (List ProcessorSnapshot × ProcessorScenario)
  | _, [], scenario => some ([], scenario)
  | number, step :: steps, scenario => do
      let (answer, acted) ← scenario.act? number step
      let settled := { acted with stage := acted.stage.settle }
      let (snapshots, scenario) ← perform? (number + 1) steps settled
      some (settled.snapshot answer :: snapshots, scenario)

def sortedEvents (journal : Journal) : List (Nat × String) :=
  let shown := journal.events.map fun (clock, event) =>
    (clock / nanosPerMilli, event.text Stage.wall)
  shown.mergeSort fun left right =>
    decide (left.1 < right.1 ∨ (left.1 = right.1 ∧ left.2 ≤ right.2))

/-- Everything that is seen of a sequence of steps with a handler of all tasks and a script that
processors see in place of the queue, unless a processor asks for too many slots, or a start or a
termination panics. -/
def run? (handler : Handler Audience) (script : Option Script) (steps : List ProcessorStep) :
    Option ProcessorRecord := do
  let (snapshots, scenario) ←
    perform? 0 steps { stage := .initial handler script, current := none }
  let shared := scenario.stage.shared
  some
    { snapshots := snapshots
      events := sortedEvents shared.journal
      peak := shared.journal.peak
      seen := shared.handlers.seen
      logs :=
        (shared.journal.logs.map LogEntry.line).mergeSort fun left right =>
          decide (left ≤ right) }

end ProcessorScenario

end TaskDispatch.Simulation
