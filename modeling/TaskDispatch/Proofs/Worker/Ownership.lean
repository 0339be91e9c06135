import TaskDispatch.Proofs.Queue.Whereabouts
import TaskDispatch.Proofs.Retry.Delay
import TaskDispatch.Proofs.Worker.Ceiling

/-!
# Who owns the tasks in progress

One processor works on a queue in memory to which others only add messages, and a retry policy
decides about failures. Once it has been started, a task is in progress exactly while the dispatch
loop holds it or a runner has still to report on it. So every report finds its task.
-/

namespace TaskDispatch

set_option autoImplicit false

namespace Crew

def atWork (crew : Crew) : List TaskMessage :=
  (crew.runners.filter fun runner => !runner.stage.hasEnded).map Runner.message

def owned (crew : Crew) : Multiset TaskId :=
  idsOf crew.loop.held?.toList + idsOf crew.atWork

variable {crew next : Crew} {ticket : Nat} {runner : Runner}

theorem at_work_length (crew : Crew) : crew.atWork.length = crew.unsettled := by
  rw [atWork, List.length_map, unsettled, List.countP_eq_length_filter]

theorem owned_card (crew : Crew) : crew.owned.card ≤ crew.unsettled + 1 := by
  have held : crew.loop.held?.toList.length ≤ 1 := by
    cases crew.loop.held? <;> simp
  rw [owned, Multiset.card_add, ids_of_card, ids_of_card, at_work_length]
  omega

/-- What a crew owns, seen from one of its runners and the others. -/
theorem owned_around {others : List Runner} (around : crew.runners.Perm (runner :: others)) :
    crew.owned =
      (if runner.stage.hasEnded then 0 else {runner.message.id})
        + (idsOf crew.loop.held?.toList
          + idsOf ((others.filter fun other => !other.stage.hasEnded).map Runner.message)) := by
  have filtered := ids_of_perm
    ((around.filter fun other => !other.stage.hasEnded).map Runner.message)
  rw [owned, atWork, filtered, List.filter_cons]
  by_cases ended : runner.stage.hasEnded = true
  · simp [ended]
  · simp [ended, Multiset.add_cons, Multiset.singleton_add]

theorem owned_after_set_runner (found : crew.runnerOf? ticket = some runner)
    (ticketed : crew.Ticketed) (changed : Runner) (same : changed.ticket = runner.ticket) :
    ∃ rest : Multiset TaskId,
      crew.owned = (if runner.stage.hasEnded then 0 else {runner.message.id}) + rest ∧
        (crew.setRunner changed).owned =
          (if changed.stage.hasEnded then 0 else {changed.message.id}) + rest :=
  ⟨_, owned_around (runners_around found ticketed),
    owned_around (set_runner_around found ticketed changed same)⟩

theorem owned_while_at_work (found : crew.runnerOf? ticket = some runner)
    (ticketed : crew.Ticketed) {stage : RunnerStage} (before : runner.stage.hasEnded = false)
    (after : stage.hasEnded = false) :
    (crew.setRunner { runner with stage := stage }).owned = crew.owned := by
  obtain ⟨rest, same, kept⟩ :=
    owned_after_set_runner found ticketed { runner with stage := stage } rfl
  rw [before] at same
  rw [after] at kept
  rw [same, kept]

/-- A runner that has still to report owns its task. -/
theorem owns_its_message (found : runner ∈ crew.runners)
    (unended : runner.stage.hasEnded = false) : runner.message.id ∈ crew.owned := by
  have atWork : runner.message ∈ crew.atWork :=
    List.mem_map_of_mem (List.mem_filter.mpr ⟨found, by simp [unended]⟩)
  rw [owned, Multiset.mem_add]
  exact .inr (mem_ids_of.mpr ⟨runner.message, atWork, rfl⟩)

end Crew

section LoopSteps

/-- From one state of a crew and its queue to another no task is lost or added, and if what was in
progress was the crew's own, it still is. -/
structure KeepsTrack (crew next : Crew) (queue later : MemoryQueue Party) : Prop where
  ids : later.store.ids = queue.store.ids
  owned : idsOf queue.store.inProgress = crew.owned →
    idsOf later.store.inProgress = next.owned

variable {index : Nat} {crew next : Crew} {queue later : MemoryQueue Party}

theorem store_after_start_fetch {caller : Party} {timeout : Duration} {now : Moment}
    {events : List Event}
    (started : MemoryQueue.backend.startFetch caller timeout now queue = some (later, events)) :
    later.store = queue.store := by
  simp only [MemoryQueue.backend, MemoryQueue.startFetch, Option.map_map,
    Option.map_eq_some_iff] at started
  obtain ⟨deadline, _, same⟩ := started
  simp only [Function.comp_apply, Prod.mk.injEq] at same
  rw [← same.1]

theorem track_kept_in_place (ids : later.store.ids = queue.store.ids)
    (inProgress : later.store.inProgress = queue.store.inProgress)
    (held : next.loop.held? = crew.loop.held?) (runners : next.runners = crew.runners) :
    KeepsTrack crew next queue later := by
  refine ⟨ids, ?_⟩
  intro owned
  rw [inProgress, owned, Crew.owned, Crew.owned, Crew.atWork, Crew.atWork, held, runners]

theorem track_kept_without_message {cause : WakeCause} {now : Moment} {fetchStep : FetchStep}
    {woken : List Party}
    (fetch : MemoryQueue.backend.advanceFetch cause (.loop index) now queue =
      some (later, fetchStep, woken))
    (nothing : fetchStep.taken? = none)
    (held : next.loop.held? = crew.loop.held?) (runners : next.runners = crew.runners) :
    KeepsTrack crew next queue later := by
  obtain ⟨ids, _, inProgress⟩ := MemoryQueue.tasks_after_fetch_step fetch
  rw [nothing, Option.toList_none, List.append_nil] at inProgress
  exact track_kept_in_place ids inProgress held runners

/-- A step of the loop takes a task into its hand together with the queue, or hands it on. -/
theorem loop_step_keeps_track
    (step : LoopStep MemoryQueue.backend index crew queue next later) :
    KeepsTrack crew next queue later := by
  cases step with
  | stopped loop | overdue loop | queued loop =>
      exact track_kept_in_place rfl rfl (by simp [loop, LoopStage.held?]) rfl
  | begun loop _ fetch =>
      have same := store_after_start_fetch fetch
      apply track_kept_in_place
      · rw [same]
      · rw [same]
      · simp [loop, LoopStage.held?]
      · rfl
  | waiting loop fetch => exact track_kept_without_message fetch rfl rfl rfl
  | empty loop fetch nothing =>
      refine track_kept_without_message fetch ?_ (by simp [loop, LoopStage.held?]) rfl
      rcases nothing with rfl | ⟨error, rfl⟩ <;> rfl
  | panicked loop fetch =>
      exact track_kept_without_message fetch rfl (by simp [loop, LoopStage.held?]) rfl
  | @received _ _ _ _ message loop fetch =>
      obtain ⟨ids, _, inProgress⟩ := MemoryQueue.tasks_after_fetch_step fetch
      refine ⟨ids, ?_⟩
      intro owned
      simp only [FetchStep.taken?, Option.toList_some] at inProgress
      rw [inProgress, ids_of_append, owned]
      simp [Crew.owned, Crew.atWork, loop, LoopStage.held?, Multiset.add_comm]
  | @admitted message loop | @resumed message loop =>
      refine ⟨rfl, ?_⟩
      intro owned
      rw [owned]
      simp [Crew.owned, Crew.atWork, Crew.assign, loop, LoopStage.held?, RunnerStage.hasEnded,
        Multiset.add_comm]

end LoopSteps

section RunnerSteps

variable {crew next : Crew} {queue later : MemoryQueue Party} {ticket : Nat} {runner : Runner}

/-- Whatever is reported about the message of a runner that has still to report, it is accepted. -/
theorem accepted_while_owned (owned : idsOf queue.store.inProgress = crew.owned)
    (found : runner ∈ crew.runners) (unended : runner.stage.hasEnded = false)
    (version : TaskMessage) (same : version.id = runner.message.id) (report : Report) :
    queue.store.Holds version.id ∧ (queue.report version report).answer = .ok () := by
  have present : queue.store.Holds version.id := by
    rw [Store.holds_iff_mem, owned, same]
    exact Crew.owns_its_message found unended
  exact ⟨present, (queue.report_accepted version report present).1⟩

/-- The report of a runner takes its task out of those in progress, and out of the crew's hands. -/
theorem owned_after_report (owned : idsOf queue.store.inProgress = crew.owned)
    (found : crew.runnerOf? ticket = some runner) (ticketed : crew.Ticketed)
    (unended : runner.stage.hasEnded = false) (version : TaskMessage)
    (same : version.id = runner.message.id) (report : Report) (stage : RunnerStage)
    (ended : stage.hasEnded = true) :
    (queue.report version report).state.store.ids ≤ queue.store.ids ∧
      idsOf (queue.report version report).state.store.inProgress =
        (crew.setRunner { runner with stage := stage }).owned := by
  obtain ⟨present, _⟩ :=
    accepted_while_owned owned (Crew.mem_of_found found) unended version same report
  obtain ⟨taken, ids, _⟩ := queue.ids_after_report version report present
  obtain ⟨rest, before, after⟩ :=
    Crew.owned_after_set_runner found ticketed { runner with stage := stage } rfl
  rw [if_neg (by simp [unended]), Multiset.singleton_add] at before
  rw [if_pos ended, zero_add] at after
  constructor
  · rw [← ids]
    exact Multiset.le_add_right _ _
  · rw [owned, before, same] at taken
    rw [after]
    exact (Multiset.cons_inj_right _).mp taken

theorem runner_step_ownership {policy : RetryPolicy} (bounded : policy.Bounded)
    (step : RunnerStep MemoryQueue.backend (policy.reconcile MemoryQueue.backend) ticket crew
      queue next later)
    (ticketed : crew.Ticketed) (owned : idsOf queue.store.inProgress = crew.owned) :
    later.store.ids ≤ queue.store.ids ∧ idsOf later.store.inProgress = next.owned := by
  cases step with
  | called found stage | handled found stage =>
      refine ⟨le_refl _, ?_⟩
      rw [owned]
      exact
        (Crew.owned_while_at_work found ticketed (by simp [stage, RunnerStage.hasEnded])
          rfl).symm
  | @completed runner found stage =>
      exact owned_after_report owned found ticketed (by simp [stage, RunnerStage.hasEnded])
        runner.message rfl .complete _ (by split <;> rfl)
  | @failed runner error now draw found stage =>
      obtain ⟨version, report, same, _, state, _⟩ :=
        RetryPolicy.reconcile_reports bounded runner.message error now draw queue
      rw [state]
      exact owned_after_report owned found ticketed (by simp [stage, RunnerStage.hasEnded])
        version same report _ (by split <;> rfl)
  | retired found ended =>
      refine ⟨le_refl _, ?_⟩
      rw [owned, Crew.owned_around (Crew.runners_around found ticketed), if_pos ended, zero_add]
      rfl

end RunnerSteps

/-- In the course of a processor on a queue in memory: once the processor has been started, what is
in progress is what its crew owns, and the queue has no task that it did not have or get. -/
structure Tracked (origin : Store) (deeds : List (Deed TaskMessage))
    (processor : Processor (MemoryQueue Party)) (queue : MemoryQueue Party) : Prop where
  owned : processor.state ≠ .created → idsOf queue.store.inProgress = processor.crew.owned
  known : queue.store.ids ≤ origin.ids + idsOf (deeds.filterMap Deed.action?)

theorem actions_after_loop_deed {α : Type} (deeds : List (Deed α)) (before after : Crew) :
    (deeds ++ (before.loopDeed? after).toList).filterMap Deed.action? =
      deeds.filterMap Deed.action? := by
  unfold Crew.loopDeed?
  split <;> simp [Deed.action?]

theorem actions_after_runner_deed {α : Type} (deeds : List (Deed α)) (ticket : Nat)
    (before after : Crew) :
    (deeds ++ (before.runnerDeed? ticket after).toList).filterMap Deed.action? =
      deeds.filterMap Deed.action? := by
  unfold Crew.runnerDeed?
  split
  · simp [Deed.action?]
  · split <;> simp [Deed.action?]
  · simp

section Courses

variable {η : Type} {handler : Handler η} {index : Nat}

theorem service_step_tracked {policy : RetryPolicy} (bounded : policy.Bounded)
    {processor later : Processor (MemoryQueue Party)} {queue next : MemoryQueue Party}
    {origin : Store} {deeds : List (Deed TaskMessage)} {deed : Option (Deed TaskMessage)}
    (step : ServiceStep (MemoryQueue.setting handler) index processor queue deed later next)
    (sound : processor.Sound index)
    (failure : processor.failure = policy.reconcile MemoryQueue.backend)
    (tracked : Tracked origin deeds processor queue) :
    Tracked origin (deeds ++ deed.toList) later next := by
  have unnoticed (same : (deeds ++ deed.toList).filterMap Deed.action? =
      deeds.filterMap Deed.action?) (fewer : next.store.ids ≤ queue.store.ids) :
      next.store.ids ≤ origin.ids + idsOf ((deeds ++ deed.toList).filterMap Deed.action?) := by
    rw [same]
    exact le_trans fewer tracked.known
  cases step with
  | refused => exact ⟨tracked.owned, unnoticed (by simp) (le_refl _)⟩
  | unrestored _ panicked =>
      have answers := queue.restore_answers
      simp [MemoryQueue.setting, MemoryQueue.backend, Reply.hasPanicked, answers] at panicked
  | started created =>
      have store : queue.restore.state.store = queue.store.restore.2 := queue.restored_store
      obtain ⟨_, alone, _⟩ := sound.inPhase.unstarted created
      refine ⟨fun _ => ?_, unnoticed (by simp) ?_⟩
      · change idsOf queue.restore.state.store.inProgress = _
        rw [store]
        simp [Store.restore, Crew.owned, Crew.atWork, LoopStage.held?, alone]
      · change queue.restore.state.store.ids ≤ _
        rw [store, Store.ids_after_restore]
  | dispatched step =>
      obtain ⟨ids, moved⟩ := loop_step_keeps_track step
      exact
        ⟨fun started => moved (tracked.owned started),
          unnoticed (actions_after_loop_deed deeds _ _) (le_of_eq ids)⟩
  | executed step =>
      rw [failure] at step
      have started : processor.state ≠ .created := fun created =>
        (Processor.runner_present step).1 (sound.inPhase.unstarted created).2.1
      obtain ⟨ids, moved⟩ :=
        runner_step_ownership bounded step sound.budgeted.ticketed (tracked.owned started)
      exact ⟨fun _ => moved, unnoticed (actions_after_runner_deed deeds _ _ _) ids⟩
  | terminating running | dropped running =>
      have started : processor.state ≠ .created := by simp [running]
      exact ⟨fun _ => tracked.owned started, unnoticed (by simp) (le_refl _)⟩
  | closed step =>
      cases step with
      | joined closing | taken closing | finished closing | given closing | queued closing =>
          have terminating := sound.inPhase.terminating (by simp [closing])
          have started : processor.state ≠ .created := by simp [terminating]
          exact ⟨fun _ => tracked.owned started, unnoticed (by simp) (le_refl _)⟩
  | acted message =>
      have store : (queue.enqueue message).1.store = queue.store.enqueue message := rfl
      refine ⟨tracked.owned, ?_⟩
      change (queue.enqueue message).1.store.ids ≤ _
      rw [store, Store.ids_after_enqueue, Option.toList_some, filter_map_concat, ids_of_append]
      simp only [Deed.action?, Option.toList_some, ids_of_cons, ids_of_nil, Multiset.add_cons,
        add_zero]
      exact Multiset.cons_le_cons _ tracked.known

variable {policy : RetryPolicy} {config : ProcessorConfig}
  {processor : Processor (MemoryQueue Party)} {shared : Shared (MemoryQueue Party) η}
  {deeds : List (Deed TaskMessage)} {service : Service (MemoryQueue Party) η}

theorem course_tracked (bounded : policy.Bounded)
    (created : Processor.new? config (policy.reconcile MemoryQueue.backend) = some processor)
    (course : Course (MemoryQueue.setting handler) index
      { processor := processor, shared := shared } deeds service) :
    service.processor.Sound index ∧
      Tracked shared.backend.store deeds service.processor service.shared.backend := by
  obtain ⟨new, _, failure⟩ := Processor.new_processor_settings created
  have start : Tracked shared.backend.store [] processor shared.backend :=
    { owned := fun started => absurd new started
      known := by simp }
  have along := course_keeps
    (fun deeds processor queue => processor.Sound index ∧
      processor.failure = policy.reconcile MemoryQueue.backend ∧
      Tracked shared.backend.store deeds processor queue)
    course ⟨Processor.new_processor_sound created, failure, start⟩ (by
      intro deeds processor later queue next deed step before
      obtain ⟨sound, failure, tracked⟩ := before
      exact
        ⟨Processor.service_step_sound step sound,
          (service_step_settings step).2.trans failure,
          service_step_tracked bounded step sound failure tracked⟩)
  exact ⟨along.1, along.2.2⟩

theorem report_step_taken {β : Type} {crew : Crew} {ticket : Nat} {runner : Runner}
    {result : Except TaskError Unit} (found : crew.runnerOf? ticket = some runner)
    (stage : runner.stage = .reporting result) (plant : Plant β η)
    (failure : FailureHandler Party β) (draw : Nat) (now : Moment) (shared : Shared β η) :
    ∃ next later, crew.advanceRunner plant failure draw now ticket shared = some (next, later) := by
  have unended : ¬ runner.stage.hasEnded = true := by
    rw [stage]
    simp [RunnerStage.hasEnded]
  simp only [Crew.advanceRunner, found, Option.bind_eq_bind, Option.bind_some, if_neg unended]
  cases result <;> simp only [Runner.advance, stage, Option.bind_some] <;> exact ⟨_, _, rfl⟩

/-- The report that a runner makes about its own task is accepted. -/
theorem report_succeeds (bounded : policy.Bounded)
    (owned : idsOf service.shared.backend.store.inProgress = service.processor.crew.owned)
    (failure : service.processor.failure = policy.reconcile MemoryQueue.backend)
    {ticket : Nat} {runner : Runner} {result : Except TaskError Unit}
    (found : service.processor.crew.runnerOf? ticket = some runner)
    (stage : runner.stage = .reporting result) (draw : Nat) (now : Moment) :
    ∃ (version : TaskMessage) (report : Report) (later : Service (MemoryQueue Party) η),
      version.id = runner.message.id ∧ (report = .complete ↔ result = .ok ()) ∧
        service.after? (MemoryQueue.setting handler) index (.runner ticket draw now) =
          some later ∧
        (service.shared.backend.report version report).answer = .ok () ∧
        later.shared.backend = (service.shared.backend.report version report).state ∧
        later.processor.crew.runnerOf? ticket = some { runner with stage := .reported } := by
  obtain ⟨crew, shared, taken⟩ := report_step_taken found stage
    (MemoryQueue.setting handler).plant service.processor.failure draw now service.shared
  have unended : runner.stage.hasEnded = false := by
    rw [stage]
    rfl
  have accepted (version : TaskMessage) (same : version.id = runner.message.id)
      (report : Report) : (service.shared.backend.report version report).answer = .ok () :=
    (accepted_while_owned owned (Crew.mem_of_found found) unended version same report).2
  have moved : service.after? (MemoryQueue.setting handler) index (.runner ticket draw now) =
      some
        { processor := { service.processor with crew := crew }
          shared := shared } := by
    simp only [Service.after?, taken, Option.map_some]
  have step := runner_step_cases taken
  rw [failure] at step
  generalize backend : shared.backend = next at step
  have sameRunner {other : Runner} (otherFound :
      service.processor.crew.runnerOf? ticket = some other) : other = runner :=
    Option.some.inj (otherFound.symm.trans found)
  have reported {reply : Reply Party (MemoryQueue Party) Unit} (answer : reply.answer = .ok ()) :
      reply.hasPanicked = false := by
    simp [Reply.hasPanicked, answer]
  cases step with
  | called otherFound ready =>
      rw [sameRunner otherFound, stage] at ready
      cases ready
  | handled otherFound handling =>
      rw [sameRunner otherFound, stage] at handling
      cases handling
  | retired otherFound ended =>
      rw [sameRunner otherFound, unended] at ended
      cases ended
  | @completed other otherFound succeeded =>
      obtain rfl := sameRunner otherFound
      rw [stage, RunnerStage.reporting.injEq] at succeeded
      have answer := accepted other.message rfl .complete
      refine ⟨other.message, .complete, _, rfl, by simp [succeeded], moved, answer, backend, ?_⟩
      have unpanicked : ((MemoryQueue.setting handler).plant.backend.complete other.message
          service.shared.backend).hasPanicked = false := reported answer
      rw [unpanicked]
      exact Crew.found_after_set_runner found { other with stage := .reported } rfl
  | @failed other error now draw otherFound failed =>
      obtain rfl := sameRunner otherFound
      rw [stage, RunnerStage.reporting.injEq] at failed
      obtain ⟨version, report, same, incomplete, state, panicked⟩ :=
        RetryPolicy.reconcile_reports bounded other.message error now draw service.shared.backend
      have answer := accepted version same report
      refine
        ⟨version, report, _, same, by simp [failed, incomplete], moved, answer,
          backend.trans state, ?_⟩
      rw [panicked, reported answer]
      exact Crew.found_after_set_runner found { other with stage := .reported } rfl

/-- Once a processor on a queue in memory has been started, the tasks in progress are those that its
loop holds and those that its runners have still to report on. So every report is accepted, there is
at most one task more in progress than there are slots, and tasks with distinct identifiers are each
executed by one runner. -/
theorem tasks_in_progress_are_owned (handler : Handler η) (index : Nat) (bounded : policy.Bounded)
    (created : Processor.new? config (policy.reconcile MemoryQueue.backend) = some processor)
    (course : Course (MemoryQueue.setting handler) index
      { processor := processor, shared := shared } deeds service)
    (started : service.processor.state ≠ .created) :
    let crew := service.processor.crew
    let queue := service.shared.backend
    idsOf queue.store.inProgress = idsOf crew.loop.held?.toList + idsOf crew.atWork ∧
      queue.store.inProgress.length ≤ config.concurrency.toNat + 1 ∧
      (∀ runner ∈ crew.runners, runner.stage.hasEnded = false →
        ∀ (version : TaskMessage) (report : Report), version.id = runner.message.id →
          (queue.report version report).answer = .ok ()) ∧
      (∀ (ticket : Nat) (runner : Runner) (result : Except TaskError Unit) (draw : Nat)
          (now : Moment),
        crew.runnerOf? ticket = some runner → runner.stage = .reporting result →
          ∃ (version : TaskMessage) (report : Report)
            (later : Service (MemoryQueue Party) η),
            version.id = runner.message.id ∧ (report = .complete ↔ result = .ok ()) ∧
              service.after? (MemoryQueue.setting handler) index (.runner ticket draw now) =
                some later ∧
              (queue.report version report).answer = .ok () ∧
              later.shared.backend = (queue.report version report).state ∧
              later.processor.crew.runnerOf? ticket =
                some { runner with stage := .reported }) ∧
      ((shared.backend.store.ids + idsOf (deeds.filterMap Deed.action?)).Nodup →
        (idsOf crew.loop.held?.toList + idsOf crew.atWork).Nodup) := by
  intro crew queue
  obtain ⟨sound, tracked⟩ := course_tracked bounded created course
  obtain ⟨new, configKept, failureKept⟩ := Processor.new_processor_settings created
  obtain ⟨configSame, failureSame⟩ := course_settings course
  have owned : idsOf queue.store.inProgress = crew.owned := tracked.owned started
  refine ⟨owned, ?_, ?_, ?_, ?_⟩
  · have ceiling := sound.budgeted.ceiling
    rw [configSame, configKept] at ceiling
    calc
      queue.store.inProgress.length = crew.owned.card := by rw [← owned, ids_of_card]
      _ ≤ crew.unsettled + 1 := crew.owned_card
      _ ≤ service.processor.inFlight + 1 := Nat.succ_le_succ sound.budgeted.unsettled_le
      _ ≤ config.concurrency.toNat + 1 := Nat.succ_le_succ ceiling
  · intro runner member unended version report same
    exact (accepted_while_owned owned member unended version same report).2
  · intro ticket runner result draw now found stage
    exact report_succeeds bounded owned (failureSame.trans failureKept) found stage draw now
  · intro distinct
    have present : idsOf queue.store.inProgress ≤ queue.store.ids := by
      rw [Store.ids, Multiset.add_comm (idsOf _) (idsOf queue.store.inProgress), add_assoc,
        add_assoc]
      exact Multiset.le_add_right _ _
    rw [owned] at present
    exact Multiset.nodup_of_le (le_trans present tracked.known) distinct

end Courses

open Rehearsal in
theorem rehearsal_tasks_are_owned :
    ∃ last,
      Service.run (MemoryQueue.setting handler) 0 (opening ++ crowding)
          { processor := processor, shared := shared } =
        some ([.outside message, .fetched message, .assigned assignment, .outside second,
          .fetched second], last) ∧
      idsOf last.shared.backend.store.inProgress =
        idsOf last.processor.crew.loop.held?.toList + idsOf last.processor.crew.atWork ∧
      (idsOf last.processor.crew.loop.held?.toList
        + idsOf last.processor.crew.atWork).Nodup := by
  have ran : ∃ last,
      Service.run (MemoryQueue.setting handler) 0 (opening ++ crowding)
          { processor := processor, shared := shared } =
        some ([.outside message, .fetched message, .assigned assignment, .outside second,
          .fetched second], last) ∧
      last.processor.state = .running := ⟨_, rfl, rfl⟩
  obtain ⟨last, ran, running⟩ := ran
  have bounded : RetryPolicy.default.Bounded := by decide
  have distinct : (shared.backend.store.ids
      + idsOf ([.outside message, .fetched message, .assigned assignment, .outside second,
        .fetched second].filterMap Deed.action?)).Nodup := by decide
  have owned := tasks_in_progress_are_owned handler 0 bounded created (course_of_run ran)
    (by simp [running])
  exact ⟨last, ran, owned.1, owned.2.2.2.2 distinct⟩

end TaskDispatch
