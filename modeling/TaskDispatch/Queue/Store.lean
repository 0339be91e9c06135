import TaskDispatch.Queue.Counts
import TaskDispatch.Task.Error
import TaskDispatch.Time.Timestamp

/-!
# The queue store

The messages of a queue and where they are: pending in order of arrival, in progress since they
were fetched, scheduled for a retry, or dead. Completed tasks are only counted. Every operation is
one atomic step.
-/

namespace TaskDispatch

set_option autoImplicit false

/-- A message that waits for its retry time. The sequence number tells the order of the retry
calls. -/
structure ScheduledTask where
  retryAt : Timestamp
  sequence : Nat
  message : TaskMessage
  deriving DecidableEq

/-- One retry is due before another: earlier, or at the same time by an earlier call. -/
def ScheduledTask.precedes (left right : ScheduledTask) : Bool :=
  left.retryAt < right.retryAt
    || (left.retryAt = right.retryAt && left.sequence < right.sequence)

/-- The contents of a queue. `scheduled` stands in the order in which the retries are due. -/
structure Store where
  pending : List TaskMessage
  inProgress : List TaskMessage
  scheduled : List ScheduledTask
  dead : List TaskMessage
  done : Nat
  nextSequence : Nat
  deriving DecidableEq

namespace Store

def empty : Store where
  pending := []
  inProgress := []
  scheduled := []
  dead := []
  done := 0
  nextSequence := 0

instance : Inhabited Store := ⟨empty⟩

def enqueue (message : TaskMessage) (store : Store) : Store :=
  { store with pending := store.pending ++ [message] }

def isDue (wall : Timestamp) (entry : ScheduledTask) : Bool := entry.retryAt ≤ wall

/-- Moves the retries that are due to the back of the pending messages, in the order in which they
fell due. -/
def promoteDue (wall : Timestamp) (store : Store) : Store :=
  { store with
    pending := store.pending
      ++ (store.scheduled.takeWhile (isDue wall)).map ScheduledTask.message
    scheduled := store.scheduled.dropWhile (isDue wall) }

def fetch (wall : Timestamp) (store : Store) : Option TaskMessage × Store :=
  let promoted := store.promoteDue wall
  match promoted.pending with
  | [] => (none, promoted)
  | message :: others =>
      (some message,
        { promoted with
          pending := others
          inProgress := promoted.inProgress ++ [message] })

def nextRetry? (store : Store) : Option Timestamp :=
  store.scheduled.head?.map ScheduledTask.retryAt

/-- Takes the first message with an identifier out of a list; the last one moves into its place. -/
def removeById (id : TaskId) : List TaskMessage → Option (TaskMessage × List TaskMessage)
  | [] => none
  | message :: others =>
      if message.id = id then
        match others.getLast? with
        | none => some (message, [])
        | some last => some (message, last :: others.dropLast)
      else
        (removeById id others).map fun (found, rest) => (found, message :: rest)

def takeInProgress (id : TaskId) (store : Store) :
    Except BackendError (TaskMessage × Store) :=
  match removeById id store.inProgress with
  | none => .error (.notFound id)
  | some (message, others) => .ok (message, { store with inProgress := others })

def complete (message : TaskMessage) (store : Store) : Except BackendError Store := do
  let (_, store) ← store.takeInProgress message.id
  .ok { store with done := store.done + 1 }

/-- Puts an entry among the scheduled ones, behind those that are due before it. -/
def schedule (entry : ScheduledTask) : List ScheduledTask → List ScheduledTask
  | [] => [entry]
  | first :: others =>
      if first.precedes entry then first :: schedule entry others
      else entry :: first :: others

def retry (message : TaskMessage) (retryAt : Timestamp) (store : Store) :
    Except BackendError Store := do
  let (_, store) ← store.takeInProgress message.id
  let entry : ScheduledTask :=
    { retryAt := retryAt, sequence := store.nextSequence, message := message }
  .ok
    { store with
      scheduled := schedule entry store.scheduled
      nextSequence := store.nextSequence + 1 }

def kill (message : TaskMessage) (store : Store) : Except BackendError Store := do
  let (_, store) ← store.takeInProgress message.id
  .ok { store with dead := store.dead ++ [message] }

def restore (store : Store) : Nat × Store :=
  (store.inProgress.length,
    { store with pending := store.pending ++ store.inProgress, inProgress := [] })

def counts (store : Store) : QueueCounts where
  pending := store.pending.length
  inProgress := store.inProgress.length
  scheduled := store.scheduled.length
  dead := store.dead.length
  done := store.done

def scheduledTasks (store : Store) : List (Timestamp × TaskMessage) :=
  store.scheduled.map fun entry => (entry.retryAt, entry.message)

end Store

end TaskDispatch
