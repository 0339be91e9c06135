import TaskDispatch.Slots.Calls

/-!
# Scenarios of a budget of slots

A sequence of steps on a budget of slots by callers that are named by keys. A key can stand for a
call for one slot, a held slot, a drain and a drained budget, all at the same time; of each it
stands for the latest. A slot that is given to a key takes the place of the one that the key held;
what is given to a call that its key no longer stands for goes back at once. After every step all
calls act until they wait; then the budget is summed up.
-/

namespace TaskDispatch.Simulation

set_option autoImplicit false

inductive SlotStep where
  | acquire (key : String)
  | drain (key : String)
  | release (key : String)
  | drop (key : String)
  | cancel (key : String)

def SlotStep.isDrain : SlotStep → Bool
  | .drain _ => true
  | _ => false

structure SlotSnapshot where
  inFlight : Nat
  capacity : Nat
  held : List String
  waiting : List String
  draining : List String
  drained : List String

/-- The tickets that keys stand for, at most one for each key. -/
abbrev KeyTable := List (String × Nat)

namespace KeyTable

def without (key : String) (table : KeyTable) : KeyTable :=
  table.filter fun entry => entry.1 != key

def put (key : String) (ticket : Nat) (table : KeyTable) : KeyTable :=
  table.without key ++ [(key, ticket)]

def keyOf? (ticket : Nat) (table : KeyTable) : Option String :=
  (table.find? fun entry => entry.2 == ticket).map Prod.fst

def keys (table : KeyTable) : List String :=
  (table.map Prod.fst).mergeSort fun left right => decide (left ≤ right)

end KeyTable

/-- A scenario under way: the budget with its calls, and the tickets of each kind that keys stand
for. -/
structure SlotScenario where
  desk : SlotDesk
  waiting : KeyTable
  held : KeyTable
  draining : KeyTable
  drained : KeyTable

namespace SlotScenario

def giveBack (ticket : Option Nat) (scenario : SlotScenario) : SlotScenario × List Nat :=
  match ticket with
  | none => (scenario, [])
  | some ticket =>
      let (desk, woken) := scenario.desk.giveBack ticket
      ({ scenario with desk := desk }, woken)

def dropCall (ticket : Option Nat) (scenario : SlotScenario) : SlotScenario × List Nat :=
  match ticket with
  | none => (scenario, [])
  | some ticket =>
      let (desk, woken) := scenario.desk.cancel ticket
      ({ scenario with desk := desk }, woken)

/-- Files what a call has been given under its key, if the call has ended. Returns who is woken. -/
def file (ticket : Nat) (scenario : SlotScenario) : SlotScenario × List Nat :=
  let desk := scenario.desk
  if ticket ∈ desk.holders then
    match scenario.waiting.keyOf? ticket with
    | none => scenario.giveBack (some ticket)
    | some key =>
        ({ scenario with
          waiting := scenario.waiting.without key
          held := scenario.held.put key ticket } : SlotScenario).giveBack
          (scenario.held.lookup key)
  else if ticket ∈ desk.drained then
    match scenario.draining.keyOf? ticket with
    | none => scenario.giveBack (some ticket)
    | some key =>
        ({ scenario with
          draining := scenario.draining.without key
          drained := scenario.drained.put key ticket } : SlotScenario).giveBack
          (scenario.drained.lookup key)
  else (scenario, [])

abbrev turnLength : Nat := 128

/-- Lets the calls that are ready act in turn until all of them wait. The second number is what is
left of the turn of the first call. -/
def settleWithin : Nat → Nat → List Nat → SlotScenario → SlotScenario
  | 0, _, _, scenario => scenario
  | _ + 1, _, [], scenario => scenario
  | fuel + 1, 0, ticket :: others, scenario =>
      settleWithin fuel turnLength (others ++ [ticket]) scenario
  | fuel + 1, left + 1, ticket :: others, scenario =>
      match scenario.desk.advance ticket with
      | some desk =>
          let (scenario, woken) := ({ scenario with desk := desk } : SlotScenario).file ticket
          settleWithin fuel left (ticket :: (others ++ woken)) scenario
      | none => settleWithin fuel turnLength others scenario

/-- Carries out a step. Returns who is ready to act then. A key that does not stand for what the
step asks for changes nothing. -/
def act (step : SlotStep) (scenario : SlotScenario) : SlotScenario × List Nat :=
  match step with
  | .acquire key =>
      let (desk, ticket) := scenario.desk.start .one
      ({ scenario with desk := desk, waiting := scenario.waiting.put key ticket }, [ticket])
  | .drain key =>
      let (desk, ticket) := scenario.desk.start (.all 0)
      ({ scenario with desk := desk, draining := scenario.draining.put key ticket }, [ticket])
  | .release key =>
      ({ scenario with held := scenario.held.without key } : SlotScenario).giveBack
        (scenario.held.lookup key)
  | .drop key =>
      let (rest, woken) :=
        ({ scenario with held := scenario.held.without key } : SlotScenario).giveBack
          (scenario.held.lookup key)
      let (rest, others) :=
        ({ rest with drained := rest.drained.without key } : SlotScenario).giveBack
          (rest.drained.lookup key)
      (rest, woken ++ others)
  | .cancel key =>
      let (rest, woken) :=
        ({ scenario with waiting := scenario.waiting.without key } : SlotScenario).dropCall
          (scenario.waiting.lookup key)
      let (rest, others) :=
        ({ rest with draining := rest.draining.without key } : SlotScenario).dropCall
          (rest.draining.lookup key)
      (rest, woken ++ others)

def snapshot (scenario : SlotScenario) : SlotSnapshot where
  inFlight := scenario.desk.slots.inFlight
  capacity := scenario.desk.slots.capacity
  held := scenario.held.keys
  waiting := scenario.waiting.keys
  draining := scenario.draining.keys
  drained := scenario.drained.keys

/-- A step and all that follows from it. For each slot a call acts at most twice, finds once that it
has to wait, and once that its turn is over. -/
def perform (step : SlotStep) (scenario : SlotScenario) : SlotScenario :=
  let (scenario, ready) := scenario.act step
  let desk := scenario.desk
  let patience := (4 * desk.slots.capacity + 4) * (desk.calls.length + 1) + ready.length
  settleWithin patience turnLength ready scenario

def snapshots : List SlotStep → SlotScenario → List SlotSnapshot
  | [], _ => []
  | step :: steps, scenario =>
      let scenario := scenario.perform step
      scenario.snapshot :: snapshots steps scenario

/-- The summaries of a sequence of steps on a new budget, unless that is too large, or too large for
the drains among the steps. -/
def run? (capacity : Nat) (steps : List SlotStep) : Option (List SlotSnapshot) :=
  if drainLimit < capacity ∧ steps.any SlotStep.isDrain then none
  else
    (SlotDesk.new? capacity).map fun desk =>
      snapshots steps { desk := desk, waiting := [], held := [], draining := [], drained := [] }

end SlotScenario

end TaskDispatch.Simulation
