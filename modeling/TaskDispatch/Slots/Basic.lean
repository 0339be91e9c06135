/-!
# Slots

A fixed budget of slots with a line of waiting requests. A slot that is given back goes to the
request that has waited longest; only with nobody waiting does it become free. A request that was
granted a slot while it waited holds it from then on, also before it has resumed.
-/

namespace TaskDispatch

set_option autoImplicit false

abbrev slotLimit : Nat := 2305843009213693951

/-- No list has room for more slots, so a larger budget cannot be drained: the attempt panics. -/
abbrev drainLimit : Nat := 576460752303423487

/-- A budget of slots: how many there are and how many are free, the waiting requests, longest
first, and the requests that have been granted a slot and not yet resumed. -/
structure Slots (κ : Type) where
  capacity : Nat
  free : Nat
  waiting : List κ
  granted : List κ
  deriving DecidableEq

inductive PoolError where
  | closed
  deriving DecidableEq, Repr

def PoolError.message : PoolError → String
  | .closed => "worker pool is closed"

namespace Slots

variable {κ : Type}

def new? (capacity : Nat) : Option (Slots κ) :=
  if capacity ≤ slotLimit then
    some { capacity := capacity, free := capacity, waiting := [], granted := [] }
  else none

def inFlight (slots : Slots κ) : Nat := slots.capacity - slots.free

/-- Asks for a slot. Tells whether it was given at once; otherwise the request waits. -/
def request (party : κ) (slots : Slots κ) : Slots κ × Bool :=
  if 0 < slots.free then ({ slots with free := slots.free - 1 }, true)
  else ({ slots with waiting := slots.waiting ++ [party] }, false)

def release (slots : Slots κ) : Slots κ × List κ :=
  match slots.waiting with
  | [] => ({ slots with free := slots.free + 1 }, [])
  | first :: others =>
      ({ slots with waiting := others, granted := slots.granted ++ [first] }, [first])

def releaseMany (slots : Slots κ) : Nat → Slots κ × List κ
  | 0 => (slots, [])
  | count + 1 =>
      let (slots, woken) := slots.release
      let (slots, others) := slots.releaseMany count
      (slots, woken ++ others)

variable [DecidableEq κ]

def takeGranted? (party : κ) (slots : Slots κ) : Option (Slots κ) :=
  if party ∈ slots.granted then
    some { slots with granted := slots.granted.erase party }
  else none

/-- Drops a waiting request; a slot that it has been granted is given back. -/
def cancel (party : κ) (slots : Slots κ) : Slots κ × List κ :=
  if party ∈ slots.granted then
    ({ slots with granted := slots.granted.erase party } : Slots κ).release
  else ({ slots with waiting := slots.waiting.erase party }, [])

end Slots

end TaskDispatch
