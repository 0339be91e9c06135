import TaskDispatch.Proofs.Slots.Line
import TaskDispatch.Proofs.Worker.Runners

/-!
# The budget of a processor

Every slot of a processor is free, held by one runner, granted to a request that has not yet
resumed, or gathered by the termination. Nobody but the dispatch loop and the terminating owner ever
stands in the line, each at most once and only while it says so. Both facts are kept by every step.
-/

namespace TaskDispatch

set_option autoImplicit false

def LoopStage.request (index : Nat) : LoopStage → List Party
  | .admitting _ true => [.loop index]
  | _ => []

def ClosingStage.request (index : Nat) : ClosingStage → List Party
  | .draining _ true => [.owner index]
  | _ => []

def ClosingStage.gathered : ClosingStage → Nat
  | .draining gathered _ => gathered
  | _ => 0

namespace Processor

variable {β : Type}

/-- Every slot is in one place, and the line holds exactly the requests of the loop and of the
owner. -/
structure Budgeted (index : Nat) (processor : Processor β) : Prop where
  size : processor.crew.slots.capacity = processor.config.concurrency.toNat
  accounted :
    processor.crew.slots.free + processor.crew.slots.granted.length
      + processor.crew.runners.length + processor.closing.gathered =
        processor.crew.slots.capacity
  line :
    (processor.crew.slots.waiting ++ processor.crew.slots.granted).Perm
      (processor.crew.loop.request index ++ processor.closing.request index)
  ticketed : processor.crew.Ticketed

variable {index : Nat} {processor : Processor β}

theorem new_processor_budgeted {config : ProcessorConfig} {failure : FailureHandler Party β}
    (created : Processor.new? config failure = some processor) :
    processor.Budgeted index := by
  simp only [Processor.new?, Crew.new?, Slots.new?, Option.map_map,
    Option.map_eq_some_iff] at created
  obtain ⟨slots, allowed, rfl⟩ := created
  split at allowed
  · cases allowed
    exact
      { size := rfl
        accounted := rfl
        line := List.Perm.refl _
        ticketed := { distinct := List.nodup_nil, given := by simp } }
  · cases allowed

/-- Handing over a message turns one slot that is not free into that of the new runner. -/
theorem budgeted_after_assignment (message : TaskMessage) (slots : Slots Party)
    (budgeted : processor.Budgeted index)
    (size : slots.capacity = processor.crew.slots.capacity)
    (taken : slots.free + slots.granted.length + 1 =
      processor.crew.slots.free + processor.crew.slots.granted.length)
    (line : (slots.waiting ++ slots.granted).Perm (processor.closing.request index)) :
    ({ processor with
      crew := ({ processor.crew with slots := slots } : Crew).assign message } :
        Processor β).Budgeted index where
  size := size.trans budgeted.size
  accounted := by
    have accounted := budgeted.accounted
    simp only [Crew.assign, List.length_append, List.length_cons, List.length_nil]
    omega
  line := by simpa [Crew.assign, LoopStage.request] using line
  ticketed :=
    have before : ({ processor.crew with slots := slots } : Crew).Ticketed :=
      ⟨budgeted.ticketed.distinct, budgeted.ticketed.given⟩
    Crew.assign_ticketed before message

/-- A loop that moves from one stage without a request to another leaves the budget alone. -/
theorem budgeted_after_loop_stage (stage : LoopStage) (budgeted : processor.Budgeted index)
    (before : processor.crew.loop.request index = []) (after : stage.request index = []) :
    ({ processor with crew := { processor.crew with loop := stage } } :
      Processor β).Budgeted index where
  size := budgeted.size
  accounted := budgeted.accounted
  line := by
    have line := budgeted.line
    rw [before] at line
    simpa only [after] using line
  ticketed := ⟨budgeted.ticketed.distinct, budgeted.ticketed.given⟩

theorem loop_step_keeps_budget {backend : Backend Party β} {state next : β} {crew : Crew}
    (step : LoopStep backend index processor.crew state crew next)
    (budgeted : processor.Budgeted index) :
    ({ processor with crew := crew } : Processor β).Budgeted index := by
  have unqueued {stage : LoopStage} (atStage : processor.crew.loop = stage)
      (before : stage.request index = []) : processor.crew.loop.request index = [] := by
    rw [atStage, before]
  cases step with
  | stopped checking => exact budgeted_after_loop_stage _ budgeted (unqueued checking rfl) rfl
  | overdue checking => exact budgeted_after_loop_stage _ budgeted (unqueued checking rfl) rfl
  | begun checking => exact budgeted_after_loop_stage _ budgeted (unqueued checking rfl) rfl
  | waiting => exact budgeted
  | empty fetching => exact budgeted_after_loop_stage _ budgeted (unqueued fetching rfl) rfl
  | received fetching => exact budgeted_after_loop_stage _ budgeted (unqueued fetching rfl) rfl
  | panicked fetching => exact budgeted_after_loop_stage _ budgeted (unqueued fetching rfl) rfl
  | @admitted message holding room =>
      have line := budgeted.line
      rw [unqueued holding rfl, List.nil_append] at line
      exact budgeted_after_assignment message
        { processor.crew.slots with free := processor.crew.slots.free - 1 } budgeted rfl
        (by simp only; omega) line
  | queued holding full =>
      have line := budgeted.line
      rw [unqueued holding rfl, List.nil_append] at line
      exact
        { size := budgeted.size
          accounted := budgeted.accounted
          line := by
            simp only [List.append_assoc, List.singleton_append, LoopStage.request]
            exact List.perm_middle.trans (line.cons _)
          ticketed := ⟨budgeted.ticketed.distinct, budgeted.ticketed.given⟩ }
  | @resumed message holding granted =>
      have line := (Slots.line_after_taking granted).symm.trans budgeted.line
      rw [holding, LoopStage.request, List.singleton_append, List.perm_cons] at line
      have someGranted := List.length_pos_of_mem granted
      have erased := List.length_erase_of_mem granted
      exact budgeted_after_assignment message
        { processor.crew.slots with
          granted := processor.crew.slots.granted.erase (.loop index) } budgeted rfl
        (by simp only [erased]; omega) line

/-- While a runner is replaced by itself at another stage, all slots stay where they are. -/
theorem budgeted_after_set_runner (changed : Runner) (budgeted : processor.Budgeted index) :
    ({ processor with crew := processor.crew.setRunner changed } :
      Processor β).Budgeted index where
  size := budgeted.size
  accounted := by
    have accounted := budgeted.accounted
    simpa only [Crew.setRunner, List.length_map] using accounted
  line := budgeted.line
  ticketed := Crew.set_runner_ticketed budgeted.ticketed changed

theorem runner_step_keeps_budget {backend : Backend Party β}
    {failure : FailureHandler Party β} {ticket : Nat} {state next : β} {crew : Crew}
    (step : RunnerStep backend failure ticket processor.crew state crew next)
    (budgeted : processor.Budgeted index) :
    ({ processor with crew := crew } : Processor β).Budgeted index := by
  cases step with
  | called => exact budgeted_after_set_runner _ budgeted
  | handled => exact budgeted_after_set_runner _ budgeted
  | completed => exact budgeted_after_set_runner _ budgeted
  | failed => exact budgeted_after_set_runner _ budgeted
  | retired found ended =>
      have fewer := (Crew.runners_around found budgeted.ticketed).length_eq
      have freed := Slots.release_accounted processor.crew.slots
      exact
        { size := (Slots.release_capacity _).trans budgeted.size
          accounted := by
            have accounted := budgeted.accounted
            simp only [Slots.release_capacity, Crew.others, List.length_cons] at fewer ⊢
            omega
          line := (Slots.release_line _).trans budgeted.line
          ticketed := Crew.others_ticketed budgeted.ticketed _ ticket }

theorem closing_step_keeps_budget {next : Processor β} (step : ClosingStep index processor next)
    (budgeted : processor.Budgeted index) : next.Budgeted index := by
  have line := budgeted.line
  have accounted := budgeted.accounted
  have ticketed := budgeted.ticketed
  cases step with
  | joined joining ended =>
      rw [joining] at line accounted
      have begun : ∀ stage : ClosingStage,
          stage = .draining 0 false ∨ stage = .crashed →
            ({ processor with closing := stage } : Processor β).Budgeted index := by
        rintro stage (rfl | rfl) <;> exact ⟨budgeted.size, accounted, line, ticketed⟩
      apply begun
      split
      · exact .inl rfl
      · exact .inr rfl
  | taken draining granted =>
      rw [draining] at line accounted
      have moved := (Slots.line_after_taking granted).symm.trans
        (line.trans (List.perm_append_singleton _ _))
      have someGranted := List.length_pos_of_mem granted
      have erased := List.length_erase_of_mem granted
      exact
        { size := budgeted.size
          accounted := by
            simp only [erased, ClosingStage.gathered] at accounted ⊢
            omega
          line := by simpa [ClosingStage.request] using moved.cons_inv
          ticketed := ⟨ticketed.distinct, ticketed.given⟩ }
  | @finished gathered draining all =>
      rw [draining] at line accounted
      have freed := Slots.release_many_accounted processor.crew.slots gathered
      exact
        { size := (Slots.release_many_capacity _ _).trans budgeted.size
          accounted := by
            simp only [Slots.release_many_capacity, ClosingStage.gathered] at accounted ⊢
            omega
          line := (Slots.release_many_line _ _).trans line
          ticketed := ⟨ticketed.distinct, ticketed.given⟩ }
  | given draining missing room =>
      rw [draining] at line accounted
      exact
        { size := budgeted.size
          accounted := by
            simp only [ClosingStage.gathered] at accounted ⊢
            omega
          line := line
          ticketed := ⟨ticketed.distinct, ticketed.given⟩ }
  | queued draining missing full =>
      rw [draining] at line accounted
      simp only [ClosingStage.request, List.append_nil] at line
      exact
        { size := budgeted.size
          accounted := accounted
          line := by
            simp only [List.append_assoc, List.singleton_append, ClosingStage.request]
            exact (List.perm_middle.trans (line.cons _)).trans
              (List.perm_append_singleton _ _).symm
          ticketed := ⟨ticketed.distinct, ticketed.given⟩ }

end Processor

end TaskDispatch
