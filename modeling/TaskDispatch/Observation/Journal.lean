import TaskDispatch.Observation.Event
import TaskDispatch.Observation.Log

/-!
# Journals

The events and log entries of a run in the order in which they happened, events with the clock
reading.
-/

namespace TaskDispatch

set_option autoImplicit false

structure Journal where
  events : List (Nat × Event)
  logs : List LogEntry
  deriving Inhabited

namespace Journal

def empty : Journal := ⟨[], []⟩

def note (journal : Journal) (clock : Nat) (events : List Event) : Journal :=
  { journal with events := journal.events ++ events.map fun event => (clock, event) }

def log (journal : Journal) (entries : List LogEntry) : Journal :=
  { journal with logs := journal.logs ++ entries }

/-- The greatest number of handlers that were between their first and last event at once. -/
def peak (journal : Journal) : Nat :=
  let counted := journal.events.foldl
    (fun (active, greatest) entry =>
      match entry.2 with
      | .handlerBegan _ => (active + 1, max greatest (active + 1))
      | .handlerEnded _ => (active - 1, greatest)
      | _ => (active, greatest))
    ((0, 0) : Nat × Nat)
  counted.2

end Journal

end TaskDispatch
