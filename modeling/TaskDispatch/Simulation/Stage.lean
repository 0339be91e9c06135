import TaskDispatch.Sample.Handlers
import TaskDispatch.Simulation.Script
import TaskDispatch.Worker.Processor

/-!
# The stage of a simulation

All processors that have been made, on one backend, with the activities around them: deliveries of
messages at a later time and fetches from outside. Whoever can act does so in atomic steps; the
stage keeps who is to act next, in the order in which the parties were woken, and at which clock
readings sleeping parties wake.
-/

namespace TaskDispatch.Simulation

open Sample

set_option autoImplicit false

structure Delivery where
  party : Party
  due : Nat
  message : TaskMessage

structure FinishedFetch where
  party : Party
  clock : Nat
  answer : Option TaskMessage

/-- The state of a simulation. `foregroundReady` tells that the party outside has been woken; it is
not in the line of the others. -/
structure Stage where
  plant : Plant Bench Audience
  now : Moment
  shared : Shared Bench Audience
  processors : List (Processor Bench)
  deliveries : List Delivery
  finished : List FinishedFetch
  ready : List Party
  alarms : List (Nat × Party)
  foregroundReady : Bool

namespace Stage

/-- The wall clock of simulations stands at the start of July 2026: retry times are either long
past or at least an hour ahead. -/
def wall : Timestamp := ⟨1782864000000000000, by decide, by decide⟩

def initial (handler : Handler Audience) (script : Option Script) : Stage where
  plant := { backend := Bench.backend, handler := handler }
  now := { clock := 0, wall := wall }
  shared :=
    { backend := { memory := .empty, script := script }
      handlers := .empty
      journal := .empty
      woken := [] }
  processors := []
  deliveries := []
  finished := []
  ready := []
  alarms := []
  foregroundReady := false

def millis (stage : Stage) : Nat := stage.now.clock / nanosPerMilli

def memory (stage : Stage) : MemoryQueue Party := stage.shared.backend.memory

def counts (stage : Stage) : QueueCounts := stage.memory.store.counts

def setMemory (stage : Stage) (memory : MemoryQueue Party) : Stage :=
  { stage with
    shared := { stage.shared with backend := { stage.shared.backend with memory := memory } } }

def closingOf (stage : Stage) (index : Nat) : ClosingStage :=
  (stage.processors[index]?.map Processor.closing).getD .idle

/-- Notes that parties have been woken. The party outside stands for itself and for the owners of
processors. -/
def wake (stage : Stage) (parties : List Party) : Stage :=
  parties.foldl
    (fun stage party =>
      match party with
      | .foreground => { stage with foregroundReady := true }
      | .owner _ => { stage with foregroundReady := true }
      | _ =>
          if party ∈ stage.ready then stage
          else { stage with ready := stage.ready ++ [party] })
    stage

def collectWoken (stage : Stage) : Stage :=
  ({ stage with shared := { stage.shared with woken := [] } } : Stage).wake stage.shared.woken

def setProcessor (stage : Stage) (index : Nat)
    (outcome : Processor Bench × Shared Bench Audience) : Stage :=
  ({ stage with
    processors := stage.processors.set index outcome.1
    shared := outcome.2 } : Stage).collectWoken

/-- In a simulation a party that has been told resumes for that reason. -/
def causeOf (stage : Stage) (party : Party) : WakeCause :=
  if party ∈ stage.memory.bell.told then .told else .timer

def advanceFetch (party : Party) (stage : Stage) : Option Stage := do
  let (memory, step, woken) ←
    stage.memory.advanceFetch (stage.causeOf party) party stage.now
  let stage := (stage.setMemory memory).wake woken
  match step with
  | .moved => some stage
  | .returned answer =>
      some
        { stage with
          finished := stage.finished
            ++ [{ party := party
                  clock := stage.now.clock
                  answer := answer.toOption.join }] }

def enqueue (message : TaskMessage) (stage : Stage) : Stage :=
  let (memory, woken) := stage.memory.enqueue message
  (stage.setMemory memory).wake woken

def advanceBackground (party : Party) (stage : Stage) : Option Stage :=
  match stage.deliveries.find? fun delivery => decide (delivery.party = party) with
  | some delivery =>
      if delivery.due ≤ stage.now.clock then
        some
          (({ stage with
            deliveries :=
              stage.deliveries.filter fun other => decide (other.party ≠ party) } : Stage).enqueue
            delivery.message)
      else none
  | none => stage.advanceFetch party

/-- Advances a party by one atomic step. There is none while it has to wait. Runners are given no
draw: the failure handlers of simulations choose their own. -/
def advance (party : Party) (stage : Stage) : Option Stage :=
  match party with
  | .foreground => stage.advanceFetch party
  | .background _ => stage.advanceBackground party
  | .loop index => do
      let processor ← stage.processors[index]?
      let (crew, shared) ←
        processor.crew.advanceLoop stage.plant index processor.config.dequeueTimeout
          (stage.causeOf party) stage.now stage.shared
      some (stage.setProcessor index ({ processor with crew := crew }, shared))
  | .runner index ticket => do
      let processor ← stage.processors[index]?
      let (crew, shared) ←
        processor.crew.advanceRunner stage.plant processor.failure 0 stage.now ticket
          stage.shared
      some (stage.setProcessor index ({ processor with crew := crew }, shared))
  | .owner index => do
      let processor ← stage.processors[index]?
      let outcome ← processor.advanceClosing index stage.shared
      some (stage.setProcessor index outcome)

def wakeTime (party : Party) (stage : Stage) : Option Nat :=
  match party with
  | .foreground => stage.memory.wakeTime party
  | .background _ =>
      match stage.deliveries.find? fun delivery => decide (delivery.party = party) with
      | some delivery => some delivery.due
      | none => stage.memory.wakeTime party
  | .loop _ => stage.plant.backend.wakeTime party stage.shared.backend
  | .runner index ticket => do
      let processor ← stage.processors[index]?
      let runner ← processor.crew.runnerOf? ticket
      runner.wakeTime
  | .owner _ => none

/-- Sets the alarm of a party anew, behind all others. -/
def setAlarm (party : Party) (time : Option Nat) (stage : Stage) : Stage :=
  let others := stage.alarms.filter fun alarm => decide (alarm.2 ≠ party)
  match time with
  | none => { stage with alarms := others }
  | some time => { stage with alarms := others ++ [(time, party)] }

def turn (party : Party) : Nat → Stage → Stage
  | 0, stage => stage
  | fuel + 1, stage =>
      match stage.advance party with
      | some stage => stage.turn party fuel
      | none => stage.setAlarm party (stage.wakeTime party)

/-- The most steps of a turn, of settling and of waiting. -/
def patience : Nat := 1000000000000

/-- Lets the parties that are ready act in turn until all of them wait. -/
def settleWithin : Nat → Stage → Stage
  | 0, stage => stage
  | fuel + 1, stage =>
      match stage.ready with
      | [] => stage
      | party :: others =>
          settleWithin fuel (({ stage with ready := others } : Stage).turn party patience)

def settle (stage : Stage) : Stage := stage.settleWithin patience

/-- An alarm goes off at the first whole millisecond that is not earlier. -/
def alarmTick (time : Nat) : Nat := (time + (nanosPerMilli - 1)) / nanosPerMilli

/-- Moves the clock to the next alarm and wakes everybody whose alarm goes off then, in the order in
which the alarms were set. There is nothing to do without an alarm. -/
def tick (stage : Stage) : Option Stage :=
  match stage.alarms.map fun alarm => alarmTick alarm.1 with
  | [] => none
  | first :: others =>
      let next := others.foldl min first
      let due := stage.alarms.filter fun alarm => decide (alarmTick alarm.1 ≤ next)
      some
        (({ stage with
            now := { stage.now with clock := max stage.now.clock (next * nanosPerMilli) }
            alarms :=
              stage.alarms.filter fun alarm => decide (next < alarmTick alarm.1) } :
          Stage).wake (due.map Prod.snd))

/-- Lets time pass until the party outside is woken. The clock moves only when all parties wait.
There is no result if nobody will wake it. -/
def untilWokenWithin : Nat → Stage → Option Stage
  | 0, _ => none
  | fuel + 1, stage =>
      if stage.foregroundReady then some { stage with foregroundReady := false }
      else if stage.ready ≠ [] then untilWokenWithin fuel stage.settle
      else do untilWokenWithin fuel (← stage.tick)

def untilWoken? (stage : Stage) : Option Stage := stage.untilWokenWithin patience

def passUntil (target : Nat) : Nat → Stage → Stage
  | 0, stage => stage
  | fuel + 1, stage =>
      if target ≤ stage.now.clock then stage
      else
        match stage.untilWoken? with
        | none => stage
        | some stage => passUntil target fuel stage

def pass (pause : Nat) (stage : Stage) : Stage :=
  let target := stage.now.clock + pause
  ((stage.setAlarm .foreground (some target)).passUntil target patience).setAlarm .foreground none

/-- Lets the party outside act, as itself or as an owner, until a condition holds, waiting where it
has to. -/
def actUntil (party : Party) (finished : Stage → Bool) : Nat → Stage → Stage
  | 0, stage => stage
  | fuel + 1, stage =>
      let stage := stage.turn party patience
      if finished stage then stage
      else
        match stage.untilWoken? with
        | none => stage
        | some stage => actUntil party finished fuel stage

def fetch (timeout : Duration) (stage : Stage) : Option TaskMessage × Stage :=
  match stage.memory.startFetch .foreground timeout stage.now with
  | none => (none, stage)
  | some memory =>
      let returned (stage : Stage) : Bool :=
        stage.finished.any fun fetch => decide (fetch.party = .foreground)
      let stage := (stage.setMemory memory).actUntil .foreground returned patience
      let own := stage.finished.filter fun fetch => decide (fetch.party = .foreground)
      let others := stage.finished.filter fun fetch => decide (fetch.party ≠ .foreground)
      (own.head?.bind FinishedFetch.answer, { stage with finished := others })

def startFetch (name : String) (timeout : Duration) (stage : Stage) : Stage :=
  match stage.memory.startFetch (.background name) timeout stage.now with
  | none => stage
  | some memory => (stage.setMemory memory).wake [.background name]

def cancelFetch (name : String) (stage : Stage) : Stage :=
  let party := Party.background name
  let (memory, woken) := stage.memory.cancelFetch party
  ((stage.setMemory memory).setAlarm party none).wake woken

def deliver (name : String) (pause : Nat) (message : TaskMessage) (stage : Stage) : Stage :=
  let party := Party.background name
  let delivery : Delivery :=
    { party := party, due := stage.now.clock + pause, message := message }
  ({ stage with deliveries := stage.deliveries ++ [delivery] } : Stage).wake [party]

end Stage

end TaskDispatch.Simulation
