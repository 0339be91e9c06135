import TaskDispatch.Proofs.Queue.Idle
import TaskDispatch.Proofs.Worker.Ownership

/-!
# Loops and their fetches

A queue in memory has a fetch of a loop exactly while the loop fetches, and no step of one loop
touches the fetch of another. Where a retry policy decides about failures, no report of a runner
panics, and none touches a fetch.
-/

namespace TaskDispatch

set_option autoImplicit false

section Loops

/-- The queue has a fetch of a loop exactly while the loop fetches. -/
structure Engaged (index : Nat) (loop : LoopStage) (queue : MemoryQueue Party) : Prop where
  fetching : loop = .fetching → queue.Fetching (.loop index)
  otherwise : loop ≠ .fetching → queue.fetchOf? (.loop index) = none

variable {index other : Nat} {crew next : Crew} {queue later : MemoryQueue Party}
  {loop stage : LoopStage}

theorem Engaged.of_same_fetch (engaged : Engaged index loop queue)
    (same : later.fetchOf? (.loop index) = queue.fetchOf? (.loop index)) :
    Engaged index loop later := by
  constructor
  · intro fetching
    obtain ⟨fetch, found, punctual⟩ := engaged.fetching fetching
    exact ⟨fetch, same.trans found, punctual⟩
  · intro apart
    exact same.trans (engaged.otherwise apart)

theorem Engaged.of_fetches (engaged : Engaged index loop queue)
    (same : later.fetches = queue.fetches) : Engaged index loop later :=
  engaged.of_same_fetch (MemoryQueue.found_of_same_fetches same _)

/-- The loop goes from one stage without a fetch to another one. -/
theorem Engaged.still_apart (engaged : Engaged index loop queue) (before : loop ≠ .fetching)
    (after : stage ≠ .fetching) : Engaged index stage queue :=
  ⟨fun fetching => absurd fetching after, fun _ => engaged.otherwise before⟩

theorem Engaged.begun (fetching : queue.Fetching (.loop index)) :
    Engaged index .fetching queue :=
  ⟨fun _ => fetching, fun apart => absurd rfl apart⟩

theorem Engaged.ended {answer : Except CallFailure (Option TaskMessage)}
    (change : MemoryQueue.FetchChange (.loop index) queue later (.returned answer))
    (after : stage ≠ .fetching) : Engaged index stage later :=
  ⟨fun fetching => absurd fetching after, fun _ => MemoryQueue.absent_after_end change⟩

theorem loop_step_engaged (step : LoopStep MemoryQueue.backend index crew queue next later)
    (engaged : Engaged index crew.loop queue) : Engaged index next.loop later := by
  cases step with
  | stopped checking => exact engaged.still_apart (by simp [checking]) (by simp)
  | overdue checking => exact engaged.still_apart (by simp [checking]) (by simp)
  | begun checking going fetch =>
      simp only [MemoryQueue.backend, Option.map_eq_some_iff, Prod.mk.injEq] at fetch
      obtain ⟨started, fetch, rfl, _⟩ := fetch
      have absent := engaged.otherwise (by simp [checking])
      exact .begun (MemoryQueue.fetching_after_start absent fetch)
  | waiting fetching fetch =>
      rw [fetching]
      exact .begun (MemoryQueue.fetching_after_move (MemoryQueue.fetch_change fetch))
  | empty _ fetch => exact .ended (MemoryQueue.fetch_change fetch) (by simp)
  | received _ fetch => exact .ended (MemoryQueue.fetch_change fetch) (by simp)
  | panicked _ fetch => exact .ended (MemoryQueue.fetch_change fetch) (by simp)
  | admitted holding => exact engaged.still_apart (by simp [holding]) (by simp [Crew.assign])
  | queued holding => exact engaged.still_apart (by simp [holding]) (by simp)
  | resumed holding => exact engaged.still_apart (by simp [holding]) (by simp [Crew.assign])

/-- The step of a loop leaves the fetches of other loops alone. -/
theorem loop_step_elsewhere (step : LoopStep MemoryQueue.backend index crew queue next later)
    (differs : other ≠ index) :
    later.fetchOf? (.loop other) = queue.fetchOf? (.loop other) := by
  have apart : Party.loop other ≠ Party.loop index := fun same => differs (Party.loop.inj same)
  cases step with
  | begun checking going fetch =>
      simp only [MemoryQueue.backend, Option.map_eq_some_iff, Prod.mk.injEq] at fetch
      obtain ⟨started, fetch, rfl, _⟩ := fetch
      exact MemoryQueue.found_elsewhere_after_start apart fetch
  | waiting _ fetch | empty _ fetch | received _ fetch | panicked _ fetch =>
      exact MemoryQueue.found_elsewhere_after_change (MemoryQueue.fetch_change fetch) apart
  | stopped | overdue | admitted | queued | resumed => rfl

end Loops

section Runners

/-- No runner has been ended by a panic of its report. -/
def Crew.Uncrashed (crew : Crew) : Prop := ∀ runner ∈ crew.runners, runner.stage ≠ .crashed

variable {index ticket : Nat} {crew next : Crew} {queue later : MemoryQueue Party}

theorem uncrashed_after_set_runner (uncrashed : crew.Uncrashed) {runner : Runner}
    (well : runner.stage ≠ .crashed) : (crew.setRunner runner).Uncrashed := by
  intro other member
  obtain ⟨before, present, rfl⟩ := List.mem_map.mp member
  split
  · exact well
  · exact uncrashed before present

theorem loop_step_uncrashed {β : Type} {backend : Backend Party β} {state after : β}
    (step : LoopStep backend index crew state next after) (uncrashed : crew.Uncrashed) :
    next.Uncrashed := by
  cases step with
  | admitted | resumed =>
      intro runner member
      simp only [Crew.assign, List.mem_append, List.mem_singleton] at member
      rcases member with before | rfl
      · exact uncrashed runner before
      · simp
  | stopped | overdue | begun | waiting | empty | received | panicked | queued =>
      exact uncrashed

theorem runner_step_uncrashed {policy : RetryPolicy} (bounded : policy.Bounded)
    (step : RunnerStep MemoryQueue.backend (policy.reconcile MemoryQueue.backend) ticket crew
      queue next later) (uncrashed : crew.Uncrashed) :
    next.Uncrashed ∧ later.fetches = queue.fetches := by
  cases step with
  | called | handled => exact ⟨uncrashed_after_set_runner uncrashed (by simp), rfl⟩
  | @completed runner =>
      have returned := queue.report_returns runner.message .complete
      have disturbs := MemoryQueue.report_disturbs runner.message queue .complete
      refine ⟨uncrashed_after_set_runner uncrashed ?_, disturbs.fetches⟩
      change (if (queue.report runner.message .complete).hasPanicked = true then _ else _) ≠ _
      simp [returned]
  | @failed runner error now draw =>
      obtain ⟨version, report, _, _, state, panicked⟩ :=
        RetryPolicy.reconcile_reports bounded runner.message error now draw queue
      have returned := queue.report_returns version report
      have disturbs := MemoryQueue.report_disturbs version queue report
      rw [state]
      refine ⟨uncrashed_after_set_runner uncrashed ?_, disturbs.fetches⟩
      simp [panicked, returned]
  | retired =>
      exact ⟨fun runner member => uncrashed runner (List.mem_of_mem_filter member), rfl⟩

end Runners

section Courses

variable {η : Type} {handler : Handler η} {index : Nat} {policy : RetryPolicy}
  {processor later : Processor (MemoryQueue Party)} {queue next : MemoryQueue Party}

/-- In a course with such a policy no report panics, the queue has a fetch of the loop exactly while
the loop fetches, and other loops do not fetch. -/
structure Unfailing (index : Nat) (processor : Processor (MemoryQueue Party))
    (queue : MemoryQueue Party) : Prop where
  uncrashed : processor.crew.Uncrashed
  engaged : Engaged index processor.crew.loop queue
  alone : ∀ other, other ≠ index → queue.fetchOf? (.loop other) = none

theorem Unfailing.of_fetches (unfailing : Unfailing index processor queue)
    (uncrashed : later.crew.Uncrashed) (loop : later.crew.loop = processor.crew.loop)
    (same : next.fetches = queue.fetches) : Unfailing index later next := by
  refine ⟨uncrashed, ?_, ?_⟩
  · rw [loop]
    exact unfailing.engaged.of_fetches same
  · intro other differs
    exact (MemoryQueue.found_of_same_fetches same _).trans (unfailing.alone other differs)

theorem service_step_unfailing (bounded : policy.Bounded)
    {deed : Option (Deed TaskMessage)}
    (step : ServiceStep (MemoryQueue.setting handler) index processor queue deed later next)
    (sound : processor.Sound index)
    (failure : processor.failure = policy.reconcile MemoryQueue.backend)
    (unfailing : Unfailing index processor queue) : Unfailing index later next := by
  have uncrashed := unfailing.uncrashed
  cases step with
  | refused => exact unfailing
  | unrestored =>
      exact unfailing.of_fetches uncrashed rfl (MemoryQueue.restore_disturbs queue).fetches
  | started created =>
      have idle := (sound.inPhase.unstarted created).1
      have restored : Unfailing index processor queue.restore.state :=
        unfailing.of_fetches uncrashed rfl (MemoryQueue.restore_disturbs queue).fetches
      refine ⟨uncrashed, ?_, restored.alone⟩
      exact restored.engaged.still_apart (by simp [idle]) (by simp)
  | dispatched step =>
      refine ⟨loop_step_uncrashed step uncrashed, loop_step_engaged step unfailing.engaged, ?_⟩
      intro other differs
      exact (loop_step_elsewhere step differs).trans (unfailing.alone other differs)
  | executed step =>
      have same := (Processor.runner_present step).2
      rw [failure] at step
      obtain ⟨well, fetches⟩ := runner_step_uncrashed bounded step uncrashed
      exact unfailing.of_fetches well same fetches
  | terminating | dropped => exact unfailing.of_fetches uncrashed rfl rfl
  | closed step => cases step <;> exact unfailing.of_fetches uncrashed rfl rfl
  | acted message => exact unfailing.of_fetches uncrashed rfl rfl

variable {config : ProcessorConfig} {shared : Shared (MemoryQueue Party) η}
  {deeds : List (Deed TaskMessage)} {service : Service (MemoryQueue Party) η}

theorem course_unfailing (bounded : policy.Bounded)
    (created : Processor.new? config (policy.reconcile MemoryQueue.backend) = some processor)
    (unused : shared.backend.fetches = [])
    (course : Course (MemoryQueue.setting handler) index
      { processor := processor, shared := shared } deeds service) :
    Unfailing index service.processor service.shared.backend := by
  obtain ⟨new, _, failure⟩ := Processor.new_processor_settings created
  have sound : processor.Sound index := Processor.new_processor_sound created
  obtain ⟨idle, alone, _⟩ := sound.inPhase.unstarted new
  have nobody (other : Nat) : shared.backend.fetchOf? (.loop other) = none :=
    MemoryQueue.absent_of_unused unused _
  have start : Unfailing index processor shared.backend := by
    constructor
    · intro runner member
      rw [alone] at member
      cases member
    · constructor
      · intro fetching
        rw [idle] at fetching
        cases fetching
      · intro _
        exact nobody index
    · exact fun other _ => nobody other
  have along := course_keeps
    (fun _ processor queue => processor.Sound index ∧
      processor.failure = policy.reconcile MemoryQueue.backend ∧ Unfailing index processor queue)
    course ⟨sound, failure, start⟩ (by
      intro _ processor later queue next deed step before
      obtain ⟨sound, failure, unfailing⟩ := before
      exact
        ⟨Processor.service_step_sound step sound, (service_step_settings step).2.trans failure,
          service_step_unfailing bounded step sound failure unfailing⟩)
  exact along.2.2

end Courses

end TaskDispatch
