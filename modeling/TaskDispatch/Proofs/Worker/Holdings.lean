import TaskDispatch.Proofs.Worker.Calls
import TaskDispatch.Proofs.Worker.Chronicle
import TaskDispatch.Proofs.Worker.Ownership

/-!
# What a service holds

A service on a queue in memory, seen as three collections of messages: those that it has fetched and
not yet begun to execute, those that it executes, and the store. Seen so, every step is one of eight
cases, with at most one episode. The cases leave the slots, the clock and the sleeping fetches out,
so the accounts of the messages do not depend on them.
-/

namespace TaskDispatch

set_option autoImplicit false

def RunnerStage.isReady : RunnerStage → Bool
  | .ready => true
  | _ => false

/-- The handler has been called, and its result is not yet reported. -/
def RunnerStage.isExecuting : RunnerStage → Bool
  | .handling _ _ => true
  | .reporting _ => true
  | _ => false

namespace Crew

def messagesAt (chosen : RunnerStage → Bool) (crew : Crew) : Multiset TaskMessage :=
  ↑((crew.runners.filter fun runner => chosen runner.stage).map Runner.message)

/-- The messages that have been fetched and for which no handler has been called. -/
def awaiting (crew : Crew) : Multiset TaskMessage :=
  ↑crew.loop.held?.toList + crew.messagesAt RunnerStage.isReady

def executing (crew : Crew) : Multiset TaskMessage := crew.messagesAt RunnerStage.isExecuting

variable {crew : Crew} {ticket : Nat} {runner : Runner} {chosen : RunnerStage → Bool}

theorem messages_at_around {others : List Runner}
    (around : crew.runners.Perm (runner :: others)) :
    crew.messagesAt chosen =
      (if chosen runner.stage then {runner.message} else 0)
        + ↑((others.filter fun other => chosen other.stage).map Runner.message) := by
  have filtered := (around.filter fun other => chosen other.stage).map Runner.message
  rw [messagesAt, Multiset.coe_eq_coe.mpr filtered, List.filter_cons]
  split
  · rw [List.map_cons, ← Multiset.cons_coe, Multiset.singleton_add]
  · rw [zero_add]

theorem messages_at_after_set_runner (found : crew.runnerOf? ticket = some runner)
    (ticketed : crew.Ticketed) (stage : RunnerStage) (chosen : RunnerStage → Bool) :
    ∃ rest : Multiset TaskMessage,
      crew.messagesAt chosen = (if chosen runner.stage then {runner.message} else 0) + rest ∧
        (crew.setRunner { runner with stage := stage }).messagesAt chosen =
          (if chosen stage then {runner.message} else 0) + rest :=
  ⟨_, messages_at_around (runners_around found ticketed),
    messages_at_around (set_runner_around found ticketed { runner with stage := stage } rfl)⟩

theorem messages_at_unchanged (found : crew.runnerOf? ticket = some runner)
    (ticketed : crew.Ticketed) {stage : RunnerStage} (same : chosen stage = chosen runner.stage) :
    (crew.setRunner { runner with stage := stage }).messagesAt chosen =
      crew.messagesAt chosen := by
  obtain ⟨rest, before, after⟩ := messages_at_after_set_runner found ticketed stage chosen
  rw [after, before, same]

theorem messages_at_after_retirement (found : crew.runnerOf? ticket = some runner)
    (ticketed : crew.Ticketed) (unchosen : chosen runner.stage = false) (slots : Slots Party) :
    ({ crew with slots := slots, runners := crew.others ticket } : Crew).messagesAt chosen =
      crew.messagesAt chosen := by
  rw [messages_at_around (runners_around found ticketed), unchosen, if_neg Bool.false_ne_true,
    zero_add]
  rfl

theorem messages_at_after_assign (message : TaskMessage) (crew : Crew)
    (chosen : RunnerStage → Bool) :
    (crew.assign message).messagesAt chosen =
      crew.messagesAt chosen + if chosen .ready then {message} else 0 := by
  unfold messagesAt assign
  rw [List.filter_append, List.map_append, ← Multiset.coe_add, List.filter_cons]
  split <;> rfl

end Crew

/-- What has been fetched and is not executed, what is executed, and the store. -/
structure Holdings where
  awaiting : Multiset TaskMessage
  executing : Multiset TaskMessage
  store : Store

def Crew.holdings (crew : Crew) (store : Store) : Holdings where
  awaiting := crew.awaiting
  executing := crew.executing
  store := store

def Service.holdings {η : Type} (service : Service (MemoryQueue Party) η) : Holdings :=
  service.processor.crew.holdings service.shared.backend.store

/-- A step of a service, seen from what it holds. A report takes an entry with the identifier of
its message out of those in progress; the messages of the two are the same only if identifiers are
distinct. -/
inductive HoldingStep : Holdings → Option (Episode TaskMessage) → Holdings → Prop where
  | still {holdings : Holdings} : HoldingStep holdings none holdings
  | enqueued {awaiting executing : Multiset TaskMessage} {store : Store} (message : TaskMessage) :
      HoldingStep ⟨awaiting, executing, store⟩ (some (.outside message))
        ⟨awaiting, executing, store.enqueue message⟩
  | looked {awaiting executing : Multiset TaskMessage} {store : Store} (wall : Timestamp) :
      HoldingStep ⟨awaiting, executing, store⟩ none
        ⟨awaiting + ↑(store.fetch wall).1.toList, executing, (store.fetch wall).2⟩
  | called {awaiting executing : Multiset TaskMessage} {store : Store} (message : TaskMessage) :
      HoldingStep ⟨{message} + awaiting, executing, store⟩ (some (.called message))
        ⟨awaiting, {message} + executing, store⟩
  | completed {awaiting executing : Multiset TaskMessage} {store : Store}
      {message found : TaskMessage} {others : List TaskMessage} (same : found.id = message.id)
      (taken : store.inProgress.Perm (found :: others)) :
      HoldingStep ⟨awaiting, {message} + executing, store⟩ (some (.concluded message (.ok ())))
        ⟨awaiting, executing, ({ store with inProgress := others } : Store).file message .complete⟩
  | retried {awaiting executing : Multiset TaskMessage} {store : Store}
      {message found : TaskMessage} {others : List TaskMessage} (same : found.id = message.id)
      (taken : store.inProgress.Perm (found :: others)) (error : TaskError) (retryAt : Timestamp)
      (left : 0 < message.retriesLeft) :
      HoldingStep ⟨awaiting, {message} + executing, store⟩
        (some (.concluded message (.error error)))
        ⟨awaiting, executing,
          ({ store with inProgress := others } : Store).file
            (message.afterFailure error.message) (.retry retryAt)⟩
  | killed {awaiting executing : Multiset TaskMessage} {store : Store}
      {message found : TaskMessage} {others : List TaskMessage} (same : found.id = message.id)
      (taken : store.inProgress.Perm (found :: others)) (error : TaskError)
      (exhausted : message.retriesLeft = 0) :
      HoldingStep ⟨awaiting, {message} + executing, store⟩
        (some (.concluded message (.error error)))
        ⟨awaiting, executing,
          ({ store with inProgress := others } : Store).file
            (message.afterFailure error.message) .kill⟩
  | restored {store : Store} : HoldingStep ⟨0, 0, store⟩ none ⟨0, 0, store.restore.2⟩

/-- After its report a runner contributes nothing any more. -/
theorem Runner.silent_at_end {runner : Runner} (ended : runner.stage.hasEnded = true) :
    (runner.episode? : Option (Episode TaskMessage)) = none ∧ runner.stage.isReady = false ∧
      runner.stage.isExecuting = false := by
  unfold Runner.episode?
  cases stage : runner.stage with
  | reported | crashed => exact ⟨rfl, rfl, rfl⟩
  | ready | handling | reporting =>
      rw [stage] at ended
      cases ended

section Steps

variable {crew next : Crew} {queue later : MemoryQueue Party} {index ticket : Nat}

theorem steady_step (held : next.loop.held? = crew.loop.held?)
    (ready : next.messagesAt RunnerStage.isReady = crew.messagesAt RunnerStage.isReady)
    (executing : next.messagesAt RunnerStage.isExecuting =
      crew.messagesAt RunnerStage.isExecuting) {store after : Store} (same : after = store) :
    HoldingStep (crew.holdings store) none (next.holdings after) := by
  have unchanged : next.holdings after = crew.holdings store := by
    rw [Crew.holdings, Crew.holdings, Crew.awaiting, Crew.awaiting, Crew.executing,
      Crew.executing, held, ready, executing, same]
  rw [unchanged]
  exact .still

theorem still_step (held : next.loop.held? = crew.loop.held?)
    (runners : next.runners = crew.runners) {store after : Store} (same : after = store) :
    HoldingStep (crew.holdings store) none (next.holdings after) := by
  apply steady_step held _ _ same
  · rw [Crew.messagesAt, Crew.messagesAt, runners]
  · rw [Crew.messagesAt, Crew.messagesAt, runners]

/-- A look of the loop puts into its hand what it takes. -/
theorem fetch_step_holdings {cause : WakeCause} {now : Moment} {step : FetchStep}
    {woken : List Party}
    (fetch : MemoryQueue.backend.advanceFetch cause (.loop index) now queue =
      some (later, step, woken))
    (empty : crew.loop.held? = none) (held : next.loop.held? = step.taken?)
    (runners : next.runners = crew.runners) :
    HoldingStep (crew.holdings queue.store) none (next.holdings later.store) := by
  have executing : next.executing = crew.executing := by
    simp only [Crew.executing, Crew.messagesAt, runners]
  have looked {found : Option TaskMessage}
      (look : queue.store.fetch now.wall = (found, later.store)) (taken : step.taken? = found) :
      HoldingStep (crew.holdings queue.store) none (next.holdings later.store) := by
    have awaiting : next.awaiting = crew.awaiting + ↑(queue.store.fetch now.wall).1.toList := by
      simp only [Crew.awaiting, Crew.messagesAt, runners, held, taken, empty, look,
        Option.toList_none, Multiset.coe_nil]
      abel
    have store : later.store = (queue.store.fetch now.wall).2 := by rw [look]
    have after : next.holdings later.store =
        ⟨crew.awaiting + ↑(queue.store.fetch now.wall).1.toList, crew.executing,
          (queue.store.fetch now.wall).2⟩ := by
      rw [Crew.holdings, executing, awaiting, store]
    rw [after]
    exact .looked now.wall
  rcases MemoryQueue.store_after_fetch_step fetch with ⟨message, rfl, look⟩ | ⟨nothing, unchanged⟩
  · exact looked look rfl
  · have taken : step.taken? = none := by
      rcases nothing with rfl | rfl <;> rfl
    rcases unchanged with same | look
    · exact still_step (by rw [held, taken, empty]) runners same
    · exact looked look taken

theorem assign_step {message : TaskMessage} {store : Store} (slots : Slots Party)
    (held : crew.loop.held? = some message) :
    HoldingStep (crew.holdings store) none
      ((({ crew with slots := slots } : Crew).assign message).holdings store) := by
  have awaiting : (({ crew with slots := slots } : Crew).assign message).awaiting =
      crew.awaiting := by
    simp only [Crew.awaiting, Crew.messages_at_after_assign, held]
    simp only [Crew.messagesAt, Crew.assign, LoopStage.held?, RunnerStage.isReady, if_true,
      Option.toList_some, Option.toList_none, Multiset.coe_nil, Multiset.coe_singleton]
    abel
  have executing : (({ crew with slots := slots } : Crew).assign message).executing =
      crew.executing := by
    simp only [Crew.executing, Crew.messages_at_after_assign]
    simp [Crew.messagesAt, RunnerStage.isExecuting]
  rw [Crew.holdings, Crew.holdings, awaiting, executing]
  exact .still

theorem loop_step_holdings (step : LoopStep MemoryQueue.backend index crew queue next later) :
    HoldingStep (crew.holdings queue.store) none (next.holdings later.store) := by
  cases step with
  | stopped loop | overdue loop | queued loop =>
      apply still_step
      · simp [loop, LoopStage.held?]
      · rfl
      · rfl
  | begun loop _ fetch =>
      apply still_step
      · simp [loop, LoopStage.held?]
      · rfl
      · exact store_after_start_fetch fetch
  | waiting loop fetch =>
      exact fetch_step_holdings fetch (by simp [loop, LoopStage.held?])
        (by simp [loop, LoopStage.held?, FetchStep.taken?]) rfl
  | empty loop fetch nothing =>
      refine fetch_step_holdings fetch (by simp [loop, LoopStage.held?]) ?_ rfl
      rcases nothing with rfl | ⟨error, rfl⟩ <;> rfl
  | received loop fetch | panicked loop fetch =>
      exact fetch_step_holdings fetch (by simp [loop, LoopStage.held?]) rfl rfl
  | admitted loop | resumed loop => exact assign_step _ (by simp [loop, LoopStage.held?])

/-- A report that a runner makes about its message is accepted, and ends the execution. -/
theorem holdings_around_report {runner : Runner} {result : Except TaskError Unit}
    (found : crew.runnerOf? ticket = some runner) (ticketed : crew.Ticketed)
    (stage : runner.stage = .reporting result)
    (inProgress : crew.executing ≤ ↑queue.store.inProgress) (version : TaskMessage)
    (own : version.id = runner.message.id) (report : Report)
    (after : RunnerStage) (ended : after.hasEnded = true) :
    ∃ rest entry others, entry.id = runner.message.id ∧
      queue.store.inProgress.Perm (entry :: others) ∧
      crew.holdings queue.store = ⟨crew.awaiting, {runner.message} + rest, queue.store⟩ ∧
      (crew.setRunner { runner with stage := after }).holdings
          (queue.report version report).state.store =
        ⟨crew.awaiting, rest,
          ({ queue.store with inProgress := others } : Store).file version report⟩ := by
  obtain ⟨rest, before, later⟩ :=
    Crew.messages_at_after_set_runner found ticketed after RunnerStage.isExecuting
  have notExecuting : after.isExecuting = false := by
    cases after <;> simp [RunnerStage.hasEnded] at ended <;> rfl
  have notReady : after.isReady = runner.stage.isReady := by
    rw [stage]
    cases after <;> simp [RunnerStage.hasEnded] at ended <;> rfl
  have executing : crew.executing = {runner.message} + rest := by
    rw [stage] at before
    exact before
  have present : queue.store.Holds version.id := by
    refine ⟨runner.message, Multiset.mem_coe.mp (Multiset.mem_of_le inProgress ?_), own.symm⟩
    rw [executing]
    exact Multiset.mem_add.mpr (.inl (Multiset.mem_singleton_self _))
  obtain ⟨_, entry, others, same, taken, filed⟩ :=
    queue.report_accepted version report present
  refine ⟨rest, entry, others, same.trans own, taken, ?_, ?_⟩
  · rw [Crew.holdings, executing]
  · rw [notExecuting, if_neg Bool.false_ne_true, zero_add] at later
    rw [Crew.holdings, Crew.executing, later, Crew.awaiting,
      Crew.messages_at_unchanged found ticketed notReady, filed]
    rfl

theorem call_step_holdings {runner : Runner} (found : crew.runnerOf? ticket = some runner)
    (ticketed : crew.Ticketed) (stage : runner.stage = .ready) (finish : Nat)
    (call : HandlerCall) (store : Store) :
    HoldingStep (crew.holdings store) (some (.called runner.message))
      ((crew.setRunner { runner with stage := .handling finish call }).holdings store) := by
  obtain ⟨ready, readyBefore, readyAfter⟩ :=
    Crew.messages_at_after_set_runner found ticketed (.handling finish call) RunnerStage.isReady
  obtain ⟨busy, busyBefore, busyAfter⟩ :=
    Crew.messages_at_after_set_runner found ticketed (.handling finish call)
      RunnerStage.isExecuting
  simp only [stage, RunnerStage.isReady, RunnerStage.isExecuting, if_true, Bool.false_eq_true,
    if_false, zero_add] at readyBefore readyAfter busyBefore busyAfter
  have before : crew.holdings store =
      ⟨{runner.message} + (↑crew.loop.held?.toList + ready), busy, store⟩ := by
    rw [Crew.holdings, Crew.awaiting, Crew.executing, readyBefore, busyBefore, add_left_comm]
  have after : (crew.setRunner { runner with stage := .handling finish call }).holdings store =
      ⟨↑crew.loop.held?.toList + ready, {runner.message} + busy, store⟩ := by
    rw [Crew.holdings, Crew.awaiting, Crew.executing, readyAfter, busyAfter]
    rfl
  rw [before, after]
  exact .called runner.message

theorem runner_step_holdings {policy : RetryPolicy} (bounded : policy.Bounded)
    (step : RunnerStep MemoryQueue.backend (policy.reconcile MemoryQueue.backend) ticket crew
      queue next later)
    (ticketed : crew.Ticketed) (inProgress : crew.executing ≤ ↑queue.store.inProgress) :
    HoldingStep (crew.holdings queue.store) ((crew.runnerOf? ticket).bind Runner.episode?)
      (next.holdings later.store) := by
  cases step with
  | called found stage =>
      simp only [found, Option.bind_some, Runner.episode?, stage]
      exact call_step_holdings found ticketed stage _ _ _
  | handled found stage =>
      simp only [found, Option.bind_some, Runner.episode?, stage]
      apply steady_step
      · rfl
      · exact Crew.messages_at_unchanged found ticketed (by rw [stage]; rfl)
      · exact Crew.messages_at_unchanged found ticketed (by rw [stage]; rfl)
      · rfl
  | @completed runner found stage =>
      simp only [found, Option.bind_some, Runner.episode?, stage]
      obtain ⟨rest, entry, others, same, taken, before, after⟩ :=
        holdings_around_report found ticketed stage inProgress runner.message rfl .complete
          (if (MemoryQueue.backend.complete runner.message queue).hasPanicked then .crashed
            else .reported) (by split <;> rfl)
      have state : (MemoryQueue.backend.complete runner.message queue).state =
          (queue.report runner.message .complete).state := rfl
      rw [state, before, after]
      exact .completed same taken
  | @failed runner error now draw found stage =>
      simp only [found, Option.bind_some, Runner.episode?, stage]
      obtain ⟨report, kind, state, _⟩ :=
        RetryPolicy.reconcile_cases bounded runner.message error now draw queue
      obtain ⟨rest, entry, others, same, taken, before, after⟩ :=
        holdings_around_report found ticketed stage inProgress
          (runner.message.afterFailure error.message)
          (runner.message.after_failure_id error.message) report
          (if (policy.reconcile MemoryQueue.backend runner.message error now draw queue).panicked
            then .crashed else .reported) (by split <;> rfl)
      rw [state, before, after]
      split at kind
      case isTrue exhausted =>
        rw [kind]
        exact .killed same taken error exhausted
      case isFalse left =>
        obtain ⟨retryAt, rfl⟩ := kind
        exact .retried same taken error retryAt (Nat.pos_of_ne_zero left)
  | @retired runner found ended =>
      obtain ⟨silent, notReady, notExecuting⟩ := Runner.silent_at_end ended
      simp only [found, Option.bind_some, silent]
      apply steady_step
      · rfl
      · exact Crew.messages_at_after_retirement found ticketed notReady crew.slots.release.1
      · exact Crew.messages_at_after_retirement found ticketed notExecuting crew.slots.release.1
      · rfl

end Steps

section Services

variable {η : Type} {handler : Handler η} {index : Nat} {policy : RetryPolicy}
  {service later : Service (MemoryQueue Party) η} {move : Move TaskMessage}

theorem start_holdings {now : Moment} (sound : service.processor.Sound index)
    (moved : service.after? (MemoryQueue.setting handler) index (.start now) = some later) :
    HoldingStep service.holdings none later.holdings := by
  by_cases created : service.processor.state = .created
  · obtain ⟨next, started, _, crew, restored⟩ :=
      Service.start_restores (MemoryQueue.setting handler) rfl created index now
    obtain rfl := Option.some.inj (started.symm.trans moved)
    obtain ⟨idle, alone, _⟩ := sound.inPhase.unstarted created
    have before : service.holdings = ⟨0, 0, service.shared.backend.store⟩ := by
      simp [Service.holdings, Crew.holdings, Crew.awaiting, Crew.executing, Crew.messagesAt,
        idle, alone, LoopStage.held?]
    have after : next.holdings = ⟨0, 0, service.shared.backend.store.restore.2⟩ := by
      simp [Service.holdings, Crew.holdings, Crew.awaiting, Crew.executing, Crew.messagesAt,
        crew, alone, restored, MemoryQueue.restored_store, LoopStage.held?]
    rw [before, after]
    exact .restored
  · have refused : service.processor.state.canBecome .running = false :=
      eq_false_of_ne_true fun allowed => created (created_of_can_run allowed)
    simp only [Service.after?, Processor.start, ProcessorState.ensureCanBecome, refused,
      Bool.false_eq_true, if_false, Option.some.injEq] at moved
    rw [moved]
    exact .still

theorem terminate_holdings
    (moved : service.after? (MemoryQueue.setting handler) index .terminate = some later) :
    HoldingStep service.holdings none later.holdings := by
  simp only [Service.after?, Processor.terminate, ProcessorState.ensureCanBecome] at moved
  by_cases allowed : service.processor.state.canBecome .terminating = true
  · simp only [if_pos allowed, Except.bind, bind, Option.some.injEq] at moved
    subst moved
    apply still_step <;> rfl
  · simp only [if_neg allowed, Except.bind, bind, Option.some.injEq] at moved
    subst moved
    exact .still

theorem close_holdings
    (moved : service.after? (MemoryQueue.setting handler) index .close = some later) :
    HoldingStep service.holdings none later.holdings := by
  simp only [Service.after?, Option.map_eq_some_iff, Prod.exists] at moved
  obtain ⟨processor, shared, advanced, rfl⟩ := moved
  obtain ⟨step, same, _⟩ := closing_step_cases advanced
  have kept : processor.crew.loop = service.processor.crew.loop ∧
      processor.crew.runners = service.processor.crew.runners := by
    cases step with
    | joined | taken | finished | given | queued => exact ⟨rfl, rfl⟩
  apply still_step
  · rw [kept.1]
  · exact kept.2
  · rw [same]

theorem abandon_holdings
    (moved : service.after? (MemoryQueue.setting handler) index .abandon = some later) :
    HoldingStep service.holdings none later.holdings := by
  simp only [Service.after?, Processor.abandon, Option.some.injEq] at moved
  subst moved
  by_cases running : service.processor.state = .running
  · simp only [if_pos running]
    apply still_step <;> rfl
  · simp only [if_neg running]
    exact .still

/-- Every move of a service with a bounded retry policy is one of the eight cases. -/
theorem move_holdings (bounded : policy.Bounded) (sound : service.processor.Sound index)
    (failure : service.processor.failure = policy.reconcile MemoryQueue.backend)
    (inProgress : service.processor.crew.executing ≤ ↑service.shared.backend.store.inProgress)
    (moved : service.after? (MemoryQueue.setting handler) index move = some later) :
    HoldingStep service.holdings (service.episode? move) later.holdings := by
  cases move with
  | loop cause now =>
      simp only [Service.after?, Option.map_eq_some_iff, Prod.exists] at moved
      obtain ⟨crew, shared, advanced, rfl⟩ := moved
      exact loop_step_holdings (loop_step_cases advanced)
  | runner ticket draw now =>
      simp only [Service.after?, Option.map_eq_some_iff, Prod.exists] at moved
      obtain ⟨crew, shared, advanced, rfl⟩ := moved
      have step := runner_step_cases advanced
      rw [failure] at step
      exact runner_step_holdings bounded step sound.budgeted.ticketed inProgress
  | outside message =>
      simp only [Service.after?, Option.some.injEq] at moved
      subst moved
      exact .enqueued message
  | start now => exact start_holdings sound moved
  | terminate => exact terminate_holdings moved
  | close => exact close_holdings moved
  | abandon => exact abandon_holdings moved

end Services

end TaskDispatch
