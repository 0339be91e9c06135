import TaskDispatch.Slots.Basic
import TaskDispatch.Worker.Runner

/-!
# Crews

The dispatch loop of a processor with its slots and runners. The loop looks at the stop flag,
fetches a message, waits for a slot, hands both to a new runner, and starts over. The flag is looked
at only between two rounds, so a message that has been fetched always reaches a runner.
-/

namespace TaskDispatch

set_option autoImplicit false

/-- Where the dispatch loop is: not started; about to look at the stop flag; in a fetch; holding a
message for which it asks for a slot, or waits for one if `queued`; ended by the flag; or ended by a
panic, of a fetch or because its deadline is beyond the clock. -/
inductive LoopStage where
  | idle
  | checking
  | fetching
  | admitting (message : TaskMessage) (queued : Bool)
  | stopped
  | crashed
  deriving DecidableEq

def LoopStage.hasEnded : LoopStage → Bool
  | .stopped => true
  | .crashed => true
  | _ => false

structure Crew where
  slots : Slots Party
  stop : Bool
  loop : LoopStage
  runners : List Runner
  nextTicket : Nat

namespace Crew

variable {β η : Type}

def new? (capacity : Nat) : Option Crew :=
  (Slots.new? capacity).map fun slots =>
    { slots := slots, stop := false, loop := .idle, runners := [], nextTicket := 0 }

/-- Hands the message that the loop holds to a new runner, which takes over the slot. -/
def spawn (processor : Nat) (message : TaskMessage) (crew : Crew) (shared : Shared β η) :
    Crew × Shared β η :=
  ({ crew with
      loop := .checking
      runners := crew.runners
        ++ [{ ticket := crew.nextTicket, message := message, stage := .ready }]
      nextTicket := crew.nextTicket + 1 },
    shared.wake [.runner processor crew.nextTicket])

def crash (processor : Nat) (crew : Crew) (shared : Shared β η) : Crew × Shared β η :=
  ({ crew with loop := .crashed }, shared.wake [.owner processor])

/-- Looks at the stop flag, and starts a fetch if it is not set. -/
def check (plant : Plant β η) (processor : Nat) (timeout : Duration) (now : Moment)
    (crew : Crew) (shared : Shared β η) : Crew × Shared β η :=
  if crew.stop then
    ({ crew with loop := .stopped }, (shared.log [.loopStopped]).wake [.owner processor])
  else
    match plant.backend.startFetch (.loop processor) timeout now shared.backend with
    | none => crew.crash processor shared
    | some (backend, events) =>
        ({ crew with loop := .fetching },
          ({ shared with backend := backend } : Shared β η).note now.clock events)

def receive (processor : Nat) (answer : Except CallFailure (Option TaskMessage)) (crew : Crew)
    (shared : Shared β η) : Crew × Shared β η :=
  match answer with
  | .ok none => ({ crew with loop := .checking }, shared)
  | .ok (some message) =>
      ({ crew with loop := .admitting message false }, shared.log [.dequeued message])
  | .error (.refused error) => ({ crew with loop := .checking }, shared.log [.fetchFailed error])
  | .error .panicked => crew.crash processor shared

/-- Advances the dispatch loop by one atomic step. There is none while it has to wait. -/
def advanceLoop (plant : Plant β η) (processor : Nat) (timeout : Duration) (cause : WakeCause)
    (now : Moment) (crew : Crew) (shared : Shared β η) : Option (Crew × Shared β η) :=
  match crew.loop with
  | .checking => some (crew.check plant processor timeout now shared)
  | .fetching => do
      let (backend, step, woken) ←
        plant.backend.advanceFetch cause (.loop processor) now shared.backend
      let shared := ({ shared with backend := backend } : Shared β η).wake woken
      match step with
      | .moved => some (crew, shared)
      | .returned answer => some (crew.receive processor answer shared)
  | .admitting message false =>
      let (slots, given) := crew.slots.request (.loop processor)
      let crew := { crew with slots := slots }
      if given then some (crew.spawn processor message shared)
      else some ({ crew with loop := .admitting message true }, shared)
  | .admitting message true => do
      let slots ← crew.slots.takeGranted? (.loop processor)
      some (({ crew with slots := slots } : Crew).spawn processor message shared)
  | .idle => none
  | .stopped => none
  | .crashed => none

def runnerOf? (crew : Crew) (ticket : Nat) : Option Runner :=
  crew.runners.find? fun runner => runner.ticket == ticket

def setRunner (crew : Crew) (runner : Runner) : Crew :=
  { crew with
    runners := crew.runners.map fun other =>
      if other.ticket = runner.ticket then runner else other }

def retire (ticket : Nat) (crew : Crew) (shared : Shared β η) : Crew × Shared β η :=
  let (slots, woken) := crew.slots.release
  ({ crew with
      slots := slots
      runners := crew.runners.filter fun runner => runner.ticket != ticket },
    shared.wake woken)

/-- Advances a runner by one atomic step. After its report it gives its slot back and is gone. -/
def advanceRunner (plant : Plant β η) (failure : FailureHandler Party β) (draw : Nat)
    (now : Moment) (ticket : Nat) (crew : Crew) (shared : Shared β η) :
    Option (Crew × Shared β η) := do
  let runner ← crew.runnerOf? ticket
  if runner.stage.hasEnded then some (crew.retire ticket shared)
  else do
    let (runner, shared) ← runner.advance plant failure now draw shared
    some (crew.setRunner runner, shared)

end Crew

end TaskDispatch
