import TaskDispatch.Simulation.Stage

/-!
# Scenarios of a queue

A sequence of operations on a queue in memory, some of which wait: a fetch is either waited for or
left to the background under a key, which stands for its latest fetch. After every step all
background activities act until they wait; then the step is summed up.
-/

namespace TaskDispatch.Simulation

set_option autoImplicit false

/-- An operation on a queue; pauses are in nanoseconds. -/
inductive QueueStep where
  | enqueue (message : TaskMessage)
  | fetch (timeout : Duration)
  | startFetch (key : String) (timeout : Duration)
  | cancel (key : String)
  | wait (pause : Nat)
  | complete (message : TaskMessage)
  | kill (message : TaskMessage)
  | retry (message : TaskMessage) (retryAt : Timestamp)
  | restore
  | listDead
  | listScheduled

inductive QueueAnswer where
  | nothing
  | enqueued (id : TaskId)
  | fetched (message : Option TaskMessage)
  | reported (outcome : Except CallFailure Unit)
  | restored (count : Except CallFailure Nat)
  | dead (messages : List TaskMessage)
  | scheduled (entries : List (Timestamp × TaskMessage))

structure EndedFetch where
  key : String
  millis : Nat
  answer : Option TaskMessage

/-- What is seen after a step: the clock in milliseconds, the answer, the background fetches that
have ended since the step before, and the sizes of the queue's parts. -/
structure QueueSnapshot where
  millis : Nat
  answer : QueueAnswer
  ended : List EndedFetch
  counts : QueueCounts

/-- A scenario under way. Every background fetch has a name of its own; `names` gives it for the
keys, each of which stands for one fetch. -/
structure QueueScenario where
  stage : Stage
  started : Nat
  names : List (String × String)

namespace QueueScenario

def initial : QueueScenario where
  stage := .initial Registry.empty.handler none
  started := 0
  names := []

def without (key : String) (scenario : QueueScenario) : List (String × String) :=
  scenario.names.filter fun entry => entry.1 != key

def absorb {α : Type} (stage : Stage) (reply : Reply Party (MemoryQueue Party) α) : Stage :=
  (stage.setMemory reply.state).wake reply.woken

/-- Carries out a step, before the background acts. -/
def act (step : QueueStep) (scenario : QueueScenario) : QueueAnswer × QueueScenario :=
  let stage := scenario.stage
  match step with
  | .enqueue message =>
      (.enqueued message.id, { scenario with stage := stage.enqueue message })
  | .fetch timeout =>
      let (message, stage) := stage.fetch timeout
      (.fetched message, { scenario with stage := stage })
  | .startFetch key timeout =>
      let name := toString scenario.started
      (.nothing,
        { stage := stage.startFetch name timeout
          started := scenario.started + 1
          names := (key, name) :: scenario.without key })
  | .cancel key =>
      match scenario.names.lookup key with
      | none => (.nothing, scenario)
      | some name => (.nothing, { scenario with stage := stage.cancelFetch name })
  | .wait pause => (.nothing, { scenario with stage := stage.pass pause })
  | .complete message =>
      let reply := stage.memory.complete message
      (.reported reply.answer, { scenario with stage := absorb stage reply })
  | .kill message =>
      let reply := stage.memory.kill message
      (.reported reply.answer, { scenario with stage := absorb stage reply })
  | .retry message retryAt =>
      let reply := stage.memory.retry message retryAt
      (.reported reply.answer, { scenario with stage := absorb stage reply })
  | .restore =>
      let reply := stage.memory.restore
      (.restored reply.answer, { scenario with stage := absorb stage reply })
  | .listDead => (.dead stage.memory.store.dead, scenario)
  | .listScheduled => (.scheduled stage.memory.store.scheduledTasks, scenario)

def keyOf? (scenario : QueueScenario) (party : Party) : Option String :=
  (scenario.names.find? fun entry => decide (Party.background entry.2 = party)).map Prod.fst

/-- The background fetches that have ended and were not yet reported, sorted by key. What a fetch
brings that its key no longer stands for is lost. -/
def ended (scenario : QueueScenario) : List EndedFetch :=
  let fetches := scenario.stage.finished.filterMap fun fetch =>
    (scenario.keyOf? fetch.party).map fun key =>
      { key := key, millis := fetch.clock / nanosPerMilli, answer := fetch.answer : EndedFetch }
  fetches.mergeSort fun left right => decide (left.key ≤ right.key)

def perform (step : QueueStep) (scenario : QueueScenario) : QueueSnapshot × QueueScenario :=
  let (answer, acted) := scenario.act step
  let settled := { acted with stage := acted.stage.settle }
  ({ millis := settled.stage.millis
     answer := answer
     ended := settled.ended
     counts := settled.stage.counts },
    { settled with stage := { settled.stage with finished := [] } })

def snapshots : List QueueStep → QueueScenario → List QueueSnapshot
  | [], _ => []
  | step :: steps, scenario =>
      let (snapshot, scenario) := scenario.perform step
      snapshot :: snapshots steps scenario

def run (steps : List QueueStep) : List QueueSnapshot := initial.snapshots steps

end QueueScenario

end TaskDispatch.Simulation
