import TaskDispatch.Handling.Registry
import TaskDispatch.Observation.Journal
import TaskDispatch.Retry.Reconciliation

/-!
# What workers share

The parties of a running system, and the state that all of them act on: the backend, the state of
the handlers, the journal, and the wake-ups that a scheduler has not yet taken up.
-/

namespace TaskDispatch

set_option autoImplicit false

/-- Who may act or wait: somebody outside, the dispatch loop, the terminating owner or a runner of
a processor, or a named background activity. -/
inductive Party where
  | foreground
  | loop (processor : Nat)
  | owner (processor : Nat)
  | runner (processor ticket : Nat)
  | background (name : String)
  deriving DecidableEq, Repr

structure Shared (β η : Type) where
  backend : β
  handlers : η
  journal : Journal
  woken : List Party

/-- The fixed equipment of workers: the operations of the backend and the handler of all tasks. -/
structure Plant (β η : Type) where
  backend : Backend Party β
  handler : Handler η

namespace Shared

variable {β η : Type}

def note (shared : Shared β η) (clock : Nat) (events : List Event) : Shared β η :=
  { shared with journal := shared.journal.note clock events }

def log (shared : Shared β η) (entries : List LogEntry) : Shared β η :=
  { shared with journal := shared.journal.log entries }

def wake (shared : Shared β η) (parties : List Party) : Shared β η :=
  { shared with woken := shared.woken ++ parties }

def absorb {α : Type} (shared : Shared β η) (clock : Nat) (reply : Reply Party β α) :
    Shared β η :=
  (({ shared with backend := reply.state } : Shared β η).note clock reply.events).wake
    reply.woken

end Shared

end TaskDispatch
