/-!
# Bells

A bell tells waiting parties, one at a time, that there may be news. A ring goes to the party that
has waited longest; with nobody waiting it is kept, at most once, for the next party that would
wait. A party that leaves after it has been told passes the ring on.
-/

namespace TaskDispatch

set_option autoImplicit false

/-- A bell: whether a ring is kept, who waits, longest first, and who has been told and not yet
resumed. -/
structure Bell (κ : Type) where
  kept : Bool
  waiting : List κ
  told : List κ
  deriving DecidableEq

namespace Bell

variable {κ : Type}

def silent : Bell κ where
  kept := false
  waiting := []
  told := []

def ring (bell : Bell κ) : Bell κ × List κ :=
  match bell.waiting with
  | [] => ({ bell with kept := true }, [])
  | first :: others => ({ bell with waiting := others, told := bell.told ++ [first] }, [first])

def takeKept (bell : Bell κ) : Bell κ := { bell with kept := false }

def join (party : κ) (bell : Bell κ) : Bell κ :=
  { bell with waiting := bell.waiting ++ [party] }

variable [DecidableEq κ]

def resume (party : κ) (bell : Bell κ) : Bell κ :=
  { bell with told := bell.told.erase party }

/-- Leaves the line, or passes on the ring that the party has been told of. -/
def leave (party : κ) (bell : Bell κ) : Bell κ × List κ :=
  if party ∈ bell.told then (bell.resume party).ring
  else ({ bell with waiting := bell.waiting.erase party }, [])

end Bell

end TaskDispatch
