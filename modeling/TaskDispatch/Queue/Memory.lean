import TaskDispatch.Queue.Backend
import TaskDispatch.Queue.Bell

/-!
# The queue in memory

A store, a bell that is rung for every message that becomes available, and the fetches under way. A
fetch looks at the store; if nothing is there it decides until when to sleep, which is its deadline
or the next retry time if that is earlier, and sleeps until it is told or its time has come. Then it
looks again. It gives up only after a look at or after its deadline.
-/

namespace TaskDispatch

set_option autoImplicit false

/-- Where a fetch is: about to look at the store; after a look that found nothing, with the next
retry time it saw; or asleep. -/
inductive FetchStage where
  | looking
  | looked (nextRetry : Option Timestamp)
  | asleep (wakeAt : Nat)
  deriving DecidableEq

structure Fetch (κ : Type) where
  caller : κ
  deadline : Nat
  stage : FetchStage
  deriving DecidableEq

structure MemoryQueue (κ : Type) where
  store : Store
  bell : Bell κ
  fetches : List (Fetch κ)
  deriving DecidableEq

namespace MemoryQueue

variable {κ : Type}

def empty : MemoryQueue κ where
  store := .empty
  bell := .silent
  fetches := []

def ring (queue : MemoryQueue κ) : MemoryQueue κ × List κ :=
  let (bell, woken) := queue.bell.ring
  ({ queue with bell := bell }, woken)

def enqueue (message : TaskMessage) (queue : MemoryQueue κ) : MemoryQueue κ × List κ :=
  ({ queue with store := queue.store.enqueue message } : MemoryQueue κ).ring

/-- An operation of the store after which nobody is told. -/
def quietly (queue : MemoryQueue κ) (result : Except BackendError Store) :
    Reply κ (MemoryQueue κ) Unit :=
  match result with
  | .ok store =>
      { answer := .ok (), state := { queue with store := store }, woken := [], events := [] }
  | .error error =>
      { answer := .error (.refused error), state := queue, woken := [], events := [] }

def complete (message : TaskMessage) (queue : MemoryQueue κ) : Reply κ (MemoryQueue κ) Unit :=
  queue.quietly (queue.store.complete message)

def kill (message : TaskMessage) (queue : MemoryQueue κ) : Reply κ (MemoryQueue κ) Unit :=
  queue.quietly (queue.store.kill message)

/-- Schedules a retry and rings, so that a sleeping fetch notices the new time. -/
def retry (message : TaskMessage) (retryAt : Timestamp) (queue : MemoryQueue κ) :
    Reply κ (MemoryQueue κ) Unit :=
  match queue.store.retry message retryAt with
  | .ok store =>
      let (queue, woken) := ({ queue with store := store } : MemoryQueue κ).ring
      { answer := .ok (), state := queue, woken := woken, events := [] }
  | .error error =>
      { answer := .error (.refused error), state := queue, woken := [], events := [] }

/-- Makes everything in progress pending again, and rings once if there was anything. -/
def restore (queue : MemoryQueue κ) : Reply κ (MemoryQueue κ) Nat :=
  let (count, store) := queue.store.restore
  let restored : MemoryQueue κ := { queue with store := store }
  if 0 < count then
    let (rung, woken) := restored.ring
    { answer := .ok count, state := rung, woken := woken, events := [] }
  else { answer := .ok count, state := restored, woken := [], events := [] }

def sleepUntil (now : Moment) (deadline : Nat) : Option Timestamp → Nat
  | none => deadline
  | some retryAt => min deadline (now.clock + now.wall.nanosUntil retryAt)

variable [DecidableEq κ]

def startFetch (caller : κ) (timeout : Duration) (now : Moment) (queue : MemoryQueue κ) :
    Option (MemoryQueue κ) :=
  (now.deadline? timeout).map fun deadline =>
    { queue with
      fetches := queue.fetches ++ [{ caller := caller, deadline := deadline, stage := .looking }] }

def fetchOf? (queue : MemoryQueue κ) (caller : κ) : Option (Fetch κ) :=
  queue.fetches.find? fun fetch => decide (fetch.caller = caller)

def setStage (queue : MemoryQueue κ) (caller : κ) (stage : FetchStage) : MemoryQueue κ :=
  { queue with
    fetches := queue.fetches.map fun fetch =>
      if fetch.caller = caller then { fetch with stage := stage } else fetch }

def endFetch (queue : MemoryQueue κ) (caller : κ) : MemoryQueue κ :=
  { queue with fetches := queue.fetches.filter fun fetch => decide (fetch.caller ≠ caller) }

/-- A look at the store: the first pending message is taken, or the next retry time is noted. -/
def look (caller : κ) (now : Moment) (queue : MemoryQueue κ) : MemoryQueue κ × FetchStep :=
  let (found, store) := queue.store.fetch now.wall
  let seen : MemoryQueue κ := { queue with store := store }
  match found with
  | some message => (seen.endFetch caller, .returned (.ok (some message)))
  | none => (seen.setStage caller (.looked store.nextRetry?), .moved)

/-- After a look that found nothing: gives up at the deadline, takes a kept ring and looks again,
or goes to sleep. -/
def settle (cause : WakeCause) (caller : κ) (deadline : Nat) (nextRetry : Option Timestamp)
    (now : Moment) (queue : MemoryQueue κ) : MemoryQueue κ × FetchStep :=
  if deadline ≤ now.clock then (queue.endFetch caller, .returned (.ok none))
  else
    let wakeAt := sleepUntil now deadline nextRetry
    let byTimer : Bool := cause = .timer ∧ wakeAt ≤ now.clock
    if byTimer then (queue.setStage caller .looking, .moved)
    else if queue.bell.kept then
      (({ queue with bell := queue.bell.takeKept } : MemoryQueue κ).setStage caller .looking,
        .moved)
    else
      (({ queue with bell := queue.bell.join caller } : MemoryQueue κ).setStage caller
        (.asleep wakeAt), .moved)

/-- Wakes a sleeping fetch for a reason that holds. One that wakes by its timer leaves the bell,
and passes on a ring that it has been told of. -/
def wake (cause : WakeCause) (caller : κ) (wakeAt : Nat) (now : Moment)
    (queue : MemoryQueue κ) : Option (MemoryQueue κ × List κ) :=
  match cause with
  | .told =>
      if caller ∈ queue.bell.told then
        some
          (({ queue with bell := queue.bell.resume caller } : MemoryQueue κ).setStage caller
            .looking, [])
      else none
  | .timer =>
      if wakeAt ≤ now.clock then
        let (bell, woken) := queue.bell.leave caller
        some
          (({ queue with bell := bell } : MemoryQueue κ).setStage caller .looking, woken)
      else none

/-- Advances the fetch of a caller by one atomic step. There is none while it has to wait. -/
def advanceFetch (cause : WakeCause) (caller : κ) (now : Moment) (queue : MemoryQueue κ) :
    Option (MemoryQueue κ × FetchStep × List κ) := do
  let fetch ← queue.fetchOf? caller
  match fetch.stage with
  | .looking =>
      let (queue, step) := queue.look caller now
      some (queue, step, [])
  | .looked nextRetry =>
      let (queue, step) := queue.settle cause caller fetch.deadline nextRetry now
      some (queue, step, [])
  | .asleep wakeAt =>
      let (queue, woken) ← queue.wake cause caller wakeAt now
      some (queue, .moved, woken)

def cancelFetch (caller : κ) (queue : MemoryQueue κ) : MemoryQueue κ × List κ :=
  let (bell, woken) := queue.bell.leave caller
  (({ queue with bell := bell } : MemoryQueue κ).endFetch caller, woken)

def wakeTime (caller : κ) (queue : MemoryQueue κ) : Option Nat := do
  let fetch ← queue.fetchOf? caller
  match fetch.stage with
  | .asleep wakeAt => some wakeAt
  | _ => none

def backend : Backend κ (MemoryQueue κ) where
  startFetch caller timeout now queue :=
    (queue.startFetch caller timeout now).map fun queue => (queue, [])
  advanceFetch := advanceFetch
  wakeTime := wakeTime
  restore := restore
  complete := complete
  retry := retry
  kill := kill

end MemoryQueue

end TaskDispatch
