import TaskDispatch.Slots.Basic

/-!
# Calls on a budget of slots

Calls that take one slot, or drain the budget: a drain asks for one slot after the other, each
request at the end of the line, keeps those it has, and ends when it has all of them. Every call has
a ticket of its own, under which what it was given is held after it has ended. A call can be
cancelled while it waits; it then gives back what it has.
-/

namespace TaskDispatch

set_option autoImplicit false

/-- What a call wants: one slot, or all of them, `gathered` of which it has. -/
inductive SlotGoal where
  | one
  | all (gathered : Nat)
  deriving DecidableEq

/-- A call under way; `queued` tells whether its request is in the line. -/
structure SlotCall where
  ticket : Nat
  goal : SlotGoal
  queued : Bool
  deriving DecidableEq

/-- A budget with its calls, the tickets that hold one slot, and those that hold all. Tickets are
handed out in ascending order. -/
structure SlotDesk where
  slots : Slots Nat
  nextTicket : Nat
  calls : List SlotCall
  holders : List Nat
  drained : List Nat
  deriving DecidableEq

namespace SlotDesk

def new? (capacity : Nat) : Option SlotDesk :=
  (Slots.new? capacity).map fun slots =>
    { slots := slots, nextTicket := 0, calls := [], holders := [], drained := [] }

def start (goal : SlotGoal) (desk : SlotDesk) : SlotDesk × Nat :=
  ({ desk with
      nextTicket := desk.nextTicket + 1
      calls := desk.calls ++ [{ ticket := desk.nextTicket, goal := goal, queued := false }] },
    desk.nextTicket)

def callOf? (desk : SlotDesk) (ticket : Nat) : Option SlotCall :=
  desk.calls.find? fun call => call.ticket == ticket

def endCall (desk : SlotDesk) (ticket : Nat) : SlotDesk :=
  { desk with calls := desk.calls.filter fun call => call.ticket != ticket }

def setCall (desk : SlotDesk) (call : SlotCall) : SlotDesk :=
  { desk with
    calls := desk.calls.map fun other => if other.ticket = call.ticket then call else other }

def deliver (desk : SlotDesk) (call : SlotCall) : SlotDesk :=
  match call.goal with
  | .one =>
      { desk.endCall call.ticket with holders := desk.holders ++ [call.ticket] }
  | .all gathered =>
      if gathered + 1 < desk.slots.capacity then
        desk.setCall { call with goal := .all (gathered + 1), queued := false }
      else { desk.endCall call.ticket with drained := desk.drained ++ [call.ticket] }

def advance (ticket : Nat) (desk : SlotDesk) : Option SlotDesk := do
  let call ← desk.callOf? ticket
  if call.queued then do
    let slots ← desk.slots.takeGranted? ticket
    some (({ desk with slots := slots } : SlotDesk).deliver call)
  else
    let (slots, given) := desk.slots.request ticket
    let asked : SlotDesk := { desk with slots := slots }
    if given then some (asked.deliver call)
    else some (asked.setCall { call with queued := true })

def giveBack (ticket : Nat) (desk : SlotDesk) : SlotDesk × List Nat :=
  if ticket ∈ desk.holders then
    let (slots, woken) := desk.slots.release
    ({ desk with slots := slots, holders := desk.holders.erase ticket }, woken)
  else if ticket ∈ desk.drained then
    let (slots, woken) := desk.slots.releaseMany desk.slots.capacity
    ({ desk with slots := slots, drained := desk.drained.erase ticket }, woken)
  else (desk, [])

/-- Drops a waiting call with everything it has. Returns who is woken. -/
def cancel (ticket : Nat) (desk : SlotDesk) : SlotDesk × List Nat :=
  match desk.callOf? ticket with
  | none => (desk, [])
  | some call =>
      let (slots, woken) :=
        if call.queued then desk.slots.cancel ticket else (desk.slots, [])
      let gathered :=
        match call.goal with
        | .one => 0
        | .all gathered => gathered
      let (slots, others) := slots.releaseMany gathered
      (({ desk with slots := slots } : SlotDesk).endCall ticket, woken ++ others)

end SlotDesk

end TaskDispatch
