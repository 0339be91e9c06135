import TaskDispatch.Queue.Memory
import TaskDispatch.Worker.Shared

/-!
# Scripted backends

A backend for trying processors out: its fetches answer from a script, its other operations succeed
or fail as told, and every call is noted as an event. When the script has ended, or says so, a fetch
waits for its timeout and brings nothing.
-/

namespace TaskDispatch.Simulation

set_option autoImplicit false

inductive ScriptEntry where
  | message (message : TaskMessage)
  | failure (error : BackendError)
  | nothing

/-- A scripted fetch under way: its answer is there, or it sleeps before it brings nothing. -/
inductive ScriptedFetch where
  | answered (answer : Except CallFailure (Option TaskMessage))
  | asleep (wakeAt : Nat)

/-- A failure that an operation answers with, given the identifier of the message. -/
abbrev Refusal := TaskId → BackendError

structure Script where
  entries : List ScriptEntry
  fetches : List (Party × ScriptedFetch)
  failRestore : Option BackendError
  failComplete : Option Refusal
  failRetry : Option Refusal
  failKill : Option Refusal
  restored : Nat

namespace Script

def plain : Script where
  entries := []
  fetches := []
  failRestore := none
  failComplete := none
  failRetry := none
  failKill := none
  restored := 0

def startFetch (caller : Party) (timeout : Duration) (now : Moment) (script : Script) :
    Script :=
  let pause : ScriptedFetch := .asleep (now.clock + timeout.nanos)
  let (fetch, entries) : ScriptedFetch × List ScriptEntry :=
    match script.entries with
    | [] => (pause, [])
    | .nothing :: others => (pause, others)
    | .message message :: others => (.answered (.ok (some message)), others)
    | .failure error :: others => (.answered (.error (.refused error)), others)
  { script with entries := entries, fetches := script.fetches ++ [(caller, fetch)] }

def advanceFetch (caller : Party) (now : Moment) (script : Script) :
    Option (Script × FetchStep) := do
  let fetch ← script.fetches.lookup caller
  let finished : Script :=
    { script with fetches := script.fetches.filter fun other => other.1 != caller }
  match fetch with
  | .answered answer => some (finished, .returned answer)
  | .asleep wakeAt =>
      if wakeAt ≤ now.clock then some (finished, .returned (.ok none)) else none

def wakeTime (caller : Party) (script : Script) : Option Nat := do
  match ← script.fetches.lookup caller with
  | .asleep wakeAt => some wakeAt
  | .answered _ => none

def answer (refusal : Option Refusal) (message : TaskMessage) : Except CallFailure Unit :=
  match refusal with
  | none => .ok ()
  | some error => .error (.refused (error message.id))

end Script

/-- The backend of a trial: a queue in memory, and possibly a script that processors see in its
place. -/
structure Bench where
  memory : MemoryQueue Party
  script : Option Script

namespace Bench

def scriptedReply {α : Type} (bench : Bench) (answer : Except CallFailure α)
    (event : Event) : Reply Party Bench α where
  answer := answer
  state := bench
  woken := []
  events := [event]

def memoryReply {α : Type} (bench : Bench) (reply : Reply Party (MemoryQueue Party) α) :
    Reply Party Bench α where
  answer := reply.answer
  state := { bench with memory := reply.state }
  woken := reply.woken
  events := reply.events

def queue : Backend Party (MemoryQueue Party) := MemoryQueue.backend

def backend : Backend Party Bench where
  startFetch caller timeout now bench :=
    match bench.script with
    | some script =>
        some ({ bench with script := some (script.startFetch caller timeout now) },
          [.fetchCalled])
    | none =>
        (queue.startFetch caller timeout now bench.memory).map fun (memory, events) =>
          ({ bench with memory := memory }, events)
  advanceFetch cause caller now bench :=
    match bench.script with
    | some script =>
        (script.advanceFetch caller now).map fun (script, step) =>
          ({ bench with script := some script }, step, [])
    | none =>
        (queue.advanceFetch cause caller now bench.memory).map fun (memory, step, woken) =>
          ({ bench with memory := memory }, step, woken)
  wakeTime caller bench :=
    match bench.script with
    | some script => script.wakeTime caller
    | none => queue.wakeTime caller bench.memory
  restore bench :=
    match bench.script with
    | some script =>
        bench.scriptedReply
          (match script.failRestore with
            | some error => .error (.refused error)
            | none => .ok script.restored)
          .restoreCalled
    | none => bench.memoryReply (queue.restore bench.memory)
  complete message bench :=
    match bench.script with
    | some script =>
        bench.scriptedReply (Script.answer script.failComplete message)
          (.completeCalled message)
    | none => bench.memoryReply (queue.complete message bench.memory)
  retry message retryAt bench :=
    match bench.script with
    | some script =>
        bench.scriptedReply (Script.answer script.failRetry message)
          (.retryCalled message retryAt)
    | none => bench.memoryReply (queue.retry message retryAt bench.memory)
  kill message bench :=
    match bench.script with
    | some script =>
        bench.scriptedReply (Script.answer script.failKill message) (.killCalled message)
    | none => bench.memoryReply (queue.kill message bench.memory)

end Bench

end TaskDispatch.Simulation
