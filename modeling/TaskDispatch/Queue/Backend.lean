import TaskDispatch.Observation.Event
import TaskDispatch.Queue.Store

/-!
# Backends

What processors ask of a queue. A fetch may wait, so it is started and then advanced by atomic
steps; the other operations are atomic. Parties that may wait are named by `κ`, the state of the
backend is `β`.
-/

namespace TaskDispatch

set_option autoImplicit false

/-- Why a waiting party resumes: it has been told, or its time has come. -/
inductive WakeCause where
  | told
  | timer
  deriving DecidableEq, Repr

/-- Why a call of a backend brought no result: it was refused, or it panicked. -/
inductive CallFailure where
  | refused (error : BackendError)
  | panicked
  deriving DecidableEq

inductive FetchStep where
  | moved
  | returned (answer : Except CallFailure (Option TaskMessage))

structure Reply (κ β α : Type) where
  answer : Except CallFailure α
  state : β
  woken : List κ
  events : List Event

def Reply.hasPanicked {κ β α : Type} (reply : Reply κ β α) : Bool :=
  match reply.answer with
  | .error .panicked => true
  | _ => false

/-- A queue as processors see it. `startFetch` has no result if the deadline is beyond the clock;
`advanceFetch` has none while the party has to wait; `wakeTime` is the clock reading at which a
waiting party resumes by itself. -/
structure Backend (κ β : Type) where
  startFetch : κ → Duration → Moment → β → Option (β × List Event)
  advanceFetch : WakeCause → κ → Moment → β → Option (β × FetchStep × List κ)
  wakeTime : κ → β → Option Nat
  restore : β → Reply κ β Nat
  complete : TaskMessage → β → Reply κ β Unit
  retry : TaskMessage → Timestamp → β → Reply κ β Unit
  kill : TaskMessage → β → Reply κ β Unit

end TaskDispatch
