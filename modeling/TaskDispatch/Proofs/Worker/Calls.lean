import TaskDispatch.Proofs.Queue.Annals
import TaskDispatch.Proofs.Worker.Steps

/-!
# The calls of a processor

A processor acts on a queue in memory only by calls, at most one a move unless its failure handler
makes several. Which calls a move makes can be told from the state before it. So any run of
processors over one queue is, for the queue, a sequence of calls.
-/

namespace TaskDispatch

set_option autoImplicit false

namespace MemoryQueue

/-- A processor whose backend is a queue in memory that others use as they like. -/
def sharedSetting {η : Type} (handler : Handler η) :
    Setting (MemoryQueue Party) η (QueueCall Party) where
  plant := { backend := MemoryQueue.backend, handler := handler }
  outside := MemoryQueue.serve

end MemoryQueue

/-- The calls by which a failure handler reports on a task. -/
abbrev ReportPlan :=
  TaskMessage → TaskError → Moment → Nat → MemoryQueue Party → List (QueueCall Party)

def ReportPlan.MadeBy (plan : ReportPlan) (failure : FailureHandler Party (MemoryQueue Party)) :
    Prop :=
  ∀ (message : TaskMessage) (error : TaskError) (now : Moment) (draw : Nat)
    (queue : MemoryQueue Party),
    (failure message error now draw queue).state =
      queue.afterCalls (plan message error now draw queue)

/-- A retry policy makes one call, or none if it panics over the retry time. -/
def RetryPolicy.plan (policy : RetryPolicy) : ReportPlan := fun message error now draw _ =>
  let version := { message with errorMessage := some error.message }
  if version.retryExhausted then [.report version .kill]
  else
    match policy.retryAt? version.retried now.wall draw with
    | none => []
    | some retryAt => [.report { version with retried := version.retried + 1 } (.retry retryAt)]

theorem RetryPolicy.plan_made (policy : RetryPolicy) :
    policy.plan.MadeBy (policy.reconcile MemoryQueue.backend) := by
  intro message error now draw queue
  unfold plan reconcile
  by_cases exhausted : ({ message with errorMessage := some error.message } :
      TaskMessage).retryExhausted = true
  · rw [if_pos exhausted, if_pos exhausted]
    rfl
  · rw [if_neg exhausted, if_neg exhausted]
    cases policy.retryAt? ({ message with errorMessage := some error.message } :
        TaskMessage).retried now.wall draw with
    | none | some => rfl

namespace Service

variable {η : Type}

def queueCalls (plan : ReportPlan) (index : Nat) (service : Service (MemoryQueue Party) η) :
    Move (QueueCall Party) → List (QueueCall Party)
  | .start _ => if service.processor.state.canBecome .running then [.restore] else []
  | .loop cause now =>
      match service.processor.crew.loop with
      | .checking =>
          if service.processor.crew.stop then []
          else [.startFetch (.loop index) service.processor.config.dequeueTimeout now]
      | .fetching => [.advanceFetch (.loop index) cause now]
      | _ => []
  | .runner ticket draw now =>
      match service.processor.crew.runnerOf? ticket with
      | none => []
      | some runner =>
          match runner.stage with
          | .reporting (.ok ()) => [.report runner.message .complete]
          | .reporting (.error error) =>
              plan runner.message error now draw service.shared.backend
          | _ => []
  | .outside call => [call]
  | _ => []

variable {plan : ReportPlan} {index : Nat} {service later : Service (MemoryQueue Party) η}

/-- A move that does not call the backend makes no calls. -/
theorem no_calls_of_quiet {move : Move (QueueCall Party)}
    (quiet : service.callsBackend move = false) (own : ∀ call, move ≠ .outside call) :
    service.queueCalls plan index move = [] := by
  cases move with
  | start now =>
      simp only [callsBackend] at quiet
      simp [queueCalls, quiet]
  | loop cause now =>
      simp only [callsBackend] at quiet
      simp only [queueCalls]
      split <;> simp_all
  | runner ticket draw now =>
      simp only [callsBackend] at quiet
      simp only [queueCalls]
      split
      · rfl
      · split <;> simp_all
  | terminate | close | abandon => rfl
  | outside call => exact absurd rfl (own call)

/-- A start of a new processor on a queue in memory is accepted, and restores. -/
theorem start_restores {α : Type} (setting : Setting (MemoryQueue Party) η α)
    (memory : setting.plant.backend = MemoryQueue.backend)
    (created : service.processor.state = .created) (index : Nat) (now : Moment) :
    ∃ later,
      service.after? setting index (.start now) = some later ∧
        later.processor.state = .running ∧
        later.processor.crew = { service.processor.crew with loop := .checking } ∧
        later.shared.backend = service.shared.backend.restore.state := by
  have allowed : service.processor.state.canBecome .running = true := by
    rw [created]
    rfl
  have answered : (setting.plant.backend.restore service.shared.backend).hasPanicked = false := by
    have answers := service.shared.backend.restore_answers
    rw [memory]
    simp [MemoryQueue.backend, Reply.hasPanicked, answers]
  simp only [after?, Processor.start, ProcessorState.ensureCanBecome, if_pos allowed, Shared.log,
    answered, Bool.false_eq_true, if_false]
  refine ⟨_, rfl, rfl, rfl, ?_⟩
  rw [memory]
  rfl

theorem backend_after_check {handler : Handler η} {cause : WakeCause} {now : Moment}
    (checking : service.processor.crew.loop = .checking)
    (going : service.processor.crew.stop = false)
    (moved : service.after? (MemoryQueue.sharedSetting handler) index (.loop cause now) =
      some later) :
    later.shared.backend =
      (service.shared.backend.startFetch (.loop index) service.processor.config.dequeueTimeout
        now).getD service.shared.backend := by
  simp only [after?, Crew.advanceLoop, checking, Crew.check, going, Bool.false_eq_true, if_false,
    MemoryQueue.sharedSetting, MemoryQueue.backend, Option.map_some, Option.some.injEq] at moved
  subst moved
  cases service.shared.backend.startFetch (.loop index) service.processor.config.dequeueTimeout
    now <;> rfl

theorem backend_after_receive {β : Type} (index : Nat)
    (answer : Except CallFailure (Option TaskMessage)) (crew : Crew) (shared : Shared β η) :
    (crew.receive index answer shared).2.backend = shared.backend := by
  rcases answer with (error | _) | (_ | message) <;> rfl

theorem backend_after_fetch {handler : Handler η} {cause : WakeCause} {now : Moment}
    (fetching : service.processor.crew.loop = .fetching)
    (moved : service.after? (MemoryQueue.sharedSetting handler) index (.loop cause now) =
      some later) :
    ∃ step woken,
      service.shared.backend.advanceFetch cause (.loop index) now =
        some (later.shared.backend, step, woken) := by
  simp only [after?, Crew.advanceLoop, fetching, Option.bind_eq_bind, Option.map_eq_some_iff,
    Option.bind_eq_some_iff, Prod.exists] at moved
  obtain ⟨crew, shared, ⟨queue, step, woken, fetch, advanced⟩, rfl⟩ := moved
  refine ⟨step, woken, ?_⟩
  cases step with
  | moved =>
      simp only [Option.some.injEq, Prod.mk.injEq] at advanced
      obtain ⟨rfl, rfl⟩ := advanced
      exact fetch
  | returned answer =>
      have same := backend_after_receive index answer service.processor.crew
        (({ service.shared with backend := queue } : Shared _ η).wake woken)
      rw [Option.some.inj advanced] at same
      rw [same]
      exact fetch

theorem backend_after_report {handler : Handler η} {ticket draw : Nat} {now : Moment}
    {runner : Runner} {result : Except TaskError Unit}
    (found : service.processor.crew.runnerOf? ticket = some runner)
    (stage : runner.stage = .reporting result)
    (moved : service.after? (MemoryQueue.sharedSetting handler) index
      (.runner ticket draw now) = some later) :
    later.shared.backend =
      match result with
      | .ok () => (service.shared.backend.complete runner.message).state
      | .error error =>
          (service.processor.failure runner.message error now draw
            service.shared.backend).state := by
  simp only [after?, Crew.advanceRunner, found, Option.bind_eq_bind, Option.bind_some,
    Runner.advance, stage, RunnerStage.hasEnded, Bool.false_eq_true, if_false] at moved
  cases result with
  | ok | error =>
      simp only [Option.bind_some, Option.map_some, Option.some.injEq] at moved
      subst moved
      rfl

/-- What a move does to the queue is what its calls do. -/
theorem backend_after_move {handler : Handler η} {move : Move (QueueCall Party)}
    (made : plan.MadeBy service.processor.failure)
    (moved : service.after? (MemoryQueue.sharedSetting handler) index move = some later) :
    later.shared.backend =
      service.shared.backend.afterCalls (service.queueCalls plan index move) := by
  -- Calls of others come from no move of the processor, and moves without a call leave the queue.
  by_cases foreign : ∃ call, move = .outside call
  · obtain ⟨call, rfl⟩ := foreign
    simp only [after?, Option.some.injEq] at moved
    subst moved
    rfl
  have own : ∀ call, move ≠ .outside call := fun call same => foreign ⟨call, same⟩
  cases quiet : service.callsBackend move with
  | false =>
      rw [no_calls_of_quiet quiet own, backend_without_call quiet own moved]
      rfl
  | true =>
      cases move with
      | start now =>
          have allowed : service.processor.state.canBecome .running = true := quiet
          obtain ⟨next, started, _, _, restored⟩ :=
            start_restores (MemoryQueue.sharedSetting handler) rfl (created_of_can_run allowed)
              index now
          obtain rfl := Option.some.inj (moved.symm.trans started)
          rw [queueCalls, if_pos allowed, restored]
          rfl
      | loop cause now =>
          cases loop : service.processor.crew.loop with
          | checking =>
              simp only [callsBackend, loop, Bool.not_eq_true'] at quiet
              simp only [queueCalls, loop, quiet, Bool.false_eq_true, if_false,
                backend_after_check loop quiet moved]
              rfl
          | fetching =>
              obtain ⟨step, woken, fetch⟩ := backend_after_fetch loop moved
              simp only [queueCalls, loop, MemoryQueue.afterCalls, List.foldl_cons,
                List.foldl_nil, MemoryQueue.serve, fetch]
          | idle | admitting | stopped | crashed => simp [callsBackend, loop] at quiet
      | runner ticket draw now =>
          cases found : service.processor.crew.runnerOf? ticket with
          | none => simp [callsBackend, found] at quiet
          | some runner =>
              cases stage : runner.stage with
              | ready | handling | reported | crashed =>
                  simp [callsBackend, found, stage] at quiet
              | reporting result =>
                  have reported := backend_after_report found stage moved
                  cases result with
                  | ok =>
                      simp only [queueCalls, found, stage, reported]
                      rfl
                  | error error =>
                      simp only [queueCalls, found, stage, reported]
                      exact made runner.message error now draw service.shared.backend
      | terminate | close | abandon => cases quiet
      | outside call => exact absurd rfl (own call)

end Service

end TaskDispatch
