import TaskDispatch.Proofs.Worker.Ledger

/-!
# The ceiling of concurrency

Every runner holds one slot from the moment it is made until its report has ended, however its
handler, its backend and its failure handler behave. So there are never more handlers at work than
slots, and a slot is never lost: it is with a runner, with the loop, with the termination, or free.
-/

namespace TaskDispatch

set_option autoImplicit false

def RunnerStage.isHandling : RunnerStage → Bool
  | .handling _ _ => true
  | _ => false

def Crew.handling (crew : Crew) : Nat :=
  crew.runners.countP fun runner => runner.stage.isHandling

/-- The number of runners whose report has not ended. -/
def Crew.unsettled (crew : Crew) : Nat :=
  crew.runners.countP fun runner => !runner.stage.hasEnded

namespace Processor

variable {β : Type} {index : Nat} {processor : Processor β}

theorem Budgeted.in_flight (budgeted : processor.Budgeted index) :
    processor.inFlight =
      processor.crew.runners.length + processor.crew.slots.granted.length
        + processor.closing.gathered := by
  have accounted := budgeted.accounted
  unfold inFlight Slots.inFlight
  omega

theorem Budgeted.unsettled_le (budgeted : processor.Budgeted index) :
    processor.crew.unsettled ≤ processor.inFlight := by
  have among : processor.crew.unsettled ≤ processor.crew.runners.length := List.countP_le_length
  rw [budgeted.in_flight]
  omega

theorem Budgeted.ceiling (budgeted : processor.Budgeted index) :
    processor.inFlight ≤ processor.config.concurrency.toNat := by
  rw [← budgeted.size]
  exact Nat.sub_le _ _

/-- Without a runner, a message in hand or a termination nobody holds or awaits a slot. -/
theorem Budgeted.unused (budgeted : processor.Budgeted index)
    (alone : processor.crew.runners = []) (nothing : processor.crew.loop.held? = none)
    (outside : processor.closing.isDraining = false) : processor.inFlight = 0 := by
  obtain ⟨noRequest, noSlot⟩ := ClosingStage.no_request outside index
  have line := budgeted.line.length_eq
  rw [LoopStage.no_request nothing, noRequest] at line
  simp only [List.length_append, List.length_nil] at line
  rw [budgeted.in_flight, alone, noSlot, List.length_nil]
  omega

end Processor

section Courses

variable {β η α : Type}

end Courses

end TaskDispatch
