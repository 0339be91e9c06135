import TaskDispatch.Proofs.Queue.Watch
import TaskDispatch.Proofs.Worker.Calls
import TaskDispatch.Proofs.Worker.Turns

/-!
# No slot is idle while there is work

A processor fetches alone from a queue to which others add, report and restore. When none of its
parties can take a step before the clock moves and its loop is alive, the loop waits for one of two
reasons: all slots are with runners and it has a message in hand, or nothing is pending and no retry
is due.
-/

namespace TaskDispatch

set_option autoImplicit false

def Move.moment? {α : Type} : Move α → Option Moment
  | .start now => some now
  | .loop _ now => some now
  | .runner _ _ now => some now
  | _ => none

def momentsOf {β η α : Type} (steps : List (Transition β η α)) : List Moment :=
  steps.filterMap fun step => step.move.moment?

def Move.isForeignFetch : Move (QueueCall Party) → Bool
  | .outside call => call.isFetch
  | _ => false

def ReportPlan.LeavesFetches (plan : ReportPlan) : Prop :=
  ∀ message error now draw queue, ∀ call ∈ plan message error now draw queue,
    call.isFetch = false

/-- No party of a processor can take a step at a moment. -/
structure Service.SettledAt {β η α : Type} (setting : Setting β η α) (index : Nat) (now : Moment)
    (service : Service β η) : Prop where
  loop : ∀ cause, service.after? setting index (.loop cause now) = none
  runners : ∀ ticket draw, service.after? setting index (.runner ticket draw now) = none
  closing : service.after? setting index .close = none

theorem RetryPolicy.plan_leaves_fetches (policy : RetryPolicy) : policy.plan.LeavesFetches := by
  intro message error now draw queue call member
  unfold plan at member
  by_cases exhausted : ({ message with errorMessage := some error.message } :
      TaskMessage).retryExhausted = true
  · rw [if_pos exhausted, List.mem_singleton] at member
    rw [member]
    rfl
  · rw [if_neg exhausted] at member
    cases time : policy.retryAt? ({ message with errorMessage := some error.message } :
        TaskMessage).retried now.wall draw with
    | none =>
        rw [time] at member
        cases member
    | some retryAt =>
        rw [time, List.mem_singleton] at member
        rw [member]
        rfl

section Vigilance

variable {η : Type}

/-- Only the loop fetches, and its fetch misses nothing. -/
structure Vigilant (index : Nat) (moments : List Moment) (loop : LoopStage)
    (queue : MemoryQueue Party) : Prop where
  fetching : loop = .fetching → queue.Watched (.loop index) moments
  otherwise : loop ≠ .fetching → queue.Unwatched

variable {index : Nat} {moments : List Moment} {queue next : MemoryQueue Party} {crew later : Crew}

theorem loop_move_vigilant {timeout : Duration} {cause : WakeCause} {now : Moment}
    {act : Option Act}
    (moved : LoopMove MemoryQueue.backend index timeout cause now crew queue act later next)
    (vigilant : Vigilant index moments crew.loop queue) :
    Vigilant index (moments ++ [now]) later.loop next := by
  have away {stage : LoopStage} (before : crew.loop = stage) (apart : stage ≠ .fetching) :
      queue.Unwatched := vigilant.otherwise (before ▸ apart)
  have unwatched {stage : LoopStage} {queue : MemoryQueue Party} (apart : stage ≠ .fetching)
      (unwatched : queue.Unwatched) : Vigilant index (moments ++ [now]) stage queue :=
    ⟨fun fetching => absurd fetching apart, fun _ => unwatched⟩
  cases moved with
  | stopped checking => exact unwatched (by simp) (away checking (by simp))
  | overdue checking => exact unwatched (by simp) (away checking (by simp))
  | begun checking going fetch =>
      simp only [MemoryQueue.backend, Option.map_eq_some_iff, Prod.mk.injEq] at fetch
      obtain ⟨started, fetch, rfl, _⟩ := fetch
      have watched : started.Watched (.loop index) (moments ++ [now]) :=
        MemoryQueue.watched_after_start (away checking (by simp)) fetch
      exact ⟨fun _ => watched, fun apart => absurd rfl apart⟩
  | waiting fetching fetch =>
      rcases MemoryQueue.watched_after_fetch (vigilant.fetching fetching) fetch with
        ⟨_, watched⟩ | ⟨⟨_, returned⟩, _⟩
      · exact ⟨fun _ => watched, fun apart => absurd fetching apart⟩
      · cases returned
  | @answered _ _ answer fetching fetch =>
      rcases MemoryQueue.watched_after_fetch (vigilant.fetching fetching) fetch with
        ⟨moved, _⟩ | ⟨_, ended⟩
      · cases moved
      · apply unwatched _ ended
        rcases answer with (error | _) | (_ | message) <;> simp [LoopStage.afterAnswer]
  | admitted holding | resumed holding =>
      exact unwatched (by simp [Crew.assign]) (away holding (by simp))
  | queued holding => exact unwatched (by simp) (away holding (by simp))

variable {service last : Service (MemoryQueue Party) η} {handler : Handler η}
  {plan : ReportPlan} {move : Move (QueueCall Party)}

theorem calls_leave_fetches (leaves : plan.LeavesFetches) (others : move.isForeignFetch = false)
    (other : move.isLoop = false) :
    ∀ call ∈ service.queueCalls plan index move, call.isFetch = false := by
  intro call member
  cases move with
  | loop => cases other
  | start now =>
      simp only [Service.queueCalls] at member
      split at member
      · rw [List.mem_singleton.mp member]
        rfl
      · cases member
  | runner ticket draw now =>
      simp only [Service.queueCalls] at member
      split at member
      · cases member
      · split at member
        · rw [List.mem_singleton.mp member]
          rfl
        · exact leaves _ _ _ _ _ call member
        · cases member
  | outside done =>
      rw [List.mem_singleton.mp member]
      exact others
  | terminate | close | abandon => cases member

/-- Others do to the loop at most that they start it. -/
theorem stage_after_other {β α : Type} {setting : Setting β η α} {processor after : Processor β}
    {state next : β} {handlers changed : η} {move : Move α} {act : Option Act} {stage : LoopStage}
    (moved : ServiceMove setting index processor state handlers move act after next changed)
    (sound : processor.Sound index) (other : move.isLoop = false) (begun : stage ≠ .idle)
    (beyond : stage ≠ .checking) :
    after.crew.loop = stage ↔ processor.crew.loop = stage := by
  cases moved with
  | dispatched => cases other
  | started created =>
      rw [(sound.inPhase.unstarted created).1]
      exact ⟨fun started => absurd started.symm beyond, fun idle => absurd idle.symm begun⟩
  | executed step => rw [(Processor.runner_present step.step).2]
  | closed step => cases step <;> exact Iff.rfl
  | startRefused | startPanicked | terminationRefused | terminating | keptOn | dropped
  | acted => exact Iff.rfl

theorem dispatch_vigilant {processor after : Processor (MemoryQueue Party)}
    {handlers changed : η} {act : Option Act}
    (moved : ServiceMove (MemoryQueue.sharedSetting handler) index processor queue handlers move
      act after next changed)
    (loop : move.isLoop = true) (vigilant : Vigilant index moments processor.crew.loop queue) :
    Vigilant index (moments ++ move.moment?.toList) after.crew.loop next := by
  cases moved with
  | dispatched step => exact loop_move_vigilant step vigilant
  | startRefused | startPanicked | started | executed | terminationRefused | terminating | closed
  | keptOn | dropped | acted => cases loop

theorem move_vigilant (made : plan.MadeBy service.processor.failure)
    (leaves : plan.LeavesFetches) (others : move.isForeignFetch = false)
    (sound : service.processor.Sound index)
    (moved : service.after? (MemoryQueue.sharedSetting handler) index move = some last)
    (vigilant : Vigilant index moments service.processor.crew.loop service.shared.backend) :
    Vigilant index (moments ++ move.moment?.toList) last.processor.crew.loop
      last.shared.backend := by
  have possible := service_move_cases moved
  by_cases loop : move.isLoop = true
  · exact dispatch_vigilant possible loop vigilant
  · have other := eq_false_of_ne_true loop
    have same : last.processor.crew.loop = .fetching ↔ service.processor.crew.loop = .fetching :=
      stage_after_other possible sound other (by simp) (by simp)
    have calls : ∀ call ∈ service.queueCalls plan index move, call.isFetch = false :=
      calls_leave_fetches leaves others other
    rw [Service.backend_after_move made moved]
    constructor
    case fetching =>
      intro fetching
      have watched := vigilant.fetching (same.mp fetching)
      exact MemoryQueue.watched_after_calls
        (watched.mono (List.subset_append_left _ _)) calls
    case otherwise =>
      intro apart
      have unwatched := vigilant.otherwise fun fetching => apart (same.mpr fetching)
      exact MemoryQueue.unwatched_after_calls unwatched calls

variable {config : ProcessorConfig} {failure : FailureHandler Party (MemoryQueue Party)}
  {processor : Processor (MemoryQueue Party)} {shared : Shared (MemoryQueue Party) η}
  {steps : List (Transition (MemoryQueue Party) η (QueueCall Party))}

theorem passage_vigilant (made : plan.MadeBy failure) (leaves : plan.LeavesFetches)
    (created : Processor.new? config failure = some processor)
    (unwatched : shared.backend.Unwatched)
    (passage : Passage (MemoryQueue.sharedSetting handler) index
      { processor := processor, shared := shared } steps service)
    (others : ∀ step ∈ steps, step.move.isForeignFetch = false) :
    Vigilant index (momentsOf steps) service.processor.crew.loop service.shared.backend := by
  induction passage with
  | begin =>
      have sound : processor.Sound index := Processor.new_processor_sound created
      have new : processor.crew.loop = .idle :=
        (sound.inPhase.unstarted (Processor.new_processor_settings created).1).1
      refine ⟨fun fetching => ?_, fun _ => unwatched⟩
      rw [new] at fetching
      cases fetching
  | next passage move moved ih =>
      rw [momentsOf, filter_map_concat]
      obtain ⟨earlier, last⟩ := List.forall_mem_append.mp others
      obtain ⟨sound, _, same⟩ := passage_sound created passage
      exact move_vigilant (same ▸ made) leaves (last _ (List.mem_singleton_self _)) sound moved
        (ih earlier)

theorem passage_reachable (made : plan.MadeBy failure)
    (created : Processor.new? config failure = some processor)
    (reachable : shared.backend.Reachable)
    (passage : Passage (MemoryQueue.sharedSetting handler) index
      { processor := processor, shared := shared } steps service) :
    service.shared.backend.Reachable := by
  induction passage with
  | begin => exact reachable
  | next passage move moved ih =>
      obtain ⟨_, _, same⟩ := passage_sound created passage
      have madeStill : plan.MadeBy _ := same ▸ made
      rw [Service.backend_after_move madeStill moved]
      exact MemoryQueue.reachable_after_calls ih _

/-- Why a loop waits at a moment: it holds a message while runners hold all slots, or it sleeps in a
fetch while nothing is pending and no retry is due. -/
inductive WaitsAt (index : Nat) (now : Moment) (service : Service (MemoryQueue Party) η) :
    Prop where
  | admitting {message : TaskMessage}
      (holding : service.processor.crew.loop = .admitting message true)
      (crowded : service.processor.Crowded index)
  | fetching {wakeAt : Nat} (fetching : service.processor.crew.loop = .fetching)
      (sleeps : service.shared.backend.wakeTime (.loop index) = some wakeAt)
      (unended : now.clock < wakeAt) (exhausted : service.shared.backend.store.Exhausted now.wall)

theorem waits_when_settled (vigilant : Vigilant index moments service.processor.crew.loop
      service.shared.backend)
    (sound : service.processor.Sound index) (prompt : service.processor.crew.slots.Prompt)
    (ordered : Store.InOrder service.shared.backend.store.scheduled) {now : Moment}
    (lead : ∀ seen ∈ moments, seen.Leads now)
    (settled : service.SettledAt (MemoryQueue.sharedSetting handler) index now)
    (started : service.processor.crew.loop ≠ .idle)
    (alive : service.processor.crew.loop.hasEnded = false) : WaitsAt index now service := by
  have possible (cause : WakeCause) :
      (service.processor.crew.loop = .fetching ∧
        service.shared.backend.advanceFetch cause (.loop index) now = none) ∨
        ∃ message, service.processor.crew.loop = .admitting message true ∧
          .loop index ∉ service.processor.crew.slots.granted := by
    have ended : service.processor.crew.loop.hasEnded ≠ true := by
      rw [alive]
      exact Bool.false_ne_true
    exact ((loop_blocked (settled.loop cause)).resolve_left started).resolve_left ended
  rcases possible .told with ⟨fetching, _⟩ | ⟨message, queued, ungranted⟩
  · have blocked : ∀ cause,
        service.shared.backend.advanceFetch cause (.loop index) now = none := by
      intro cause
      rcases possible cause with ⟨_, stuck⟩ | ⟨_, queued, _⟩
      · exact stuck
      · rw [fetching] at queued
        cases queued
    obtain ⟨⟨wakeAt, sleeps, unended⟩, exhausted⟩ := MemoryQueue.exhausted_when_blocked
      (vigilant.fetching fetching) ordered lead blocked
    exact .fetching fetching sleeps unended exhausted
  · exact .admitting queued (crowded_of_ungranted sound prompt queued ungranted)

/-- No slot of a processor is idle while there is work for it. -/
structure BusyAt (index : Nat) (now : Moment) (service : Service (MemoryQueue Party) η) :
    Prop where
  waits : WaitsAt index now service
  idle_slot : service.processor.inFlight < service.processor.config.concurrency.toNat →
    service.shared.backend.store.Exhausted now.wall

/-- However enqueues, retries, reports and the steps of all parties come between each other: when
nobody can take a step before the clock moves, no slot is idle while anything is pending or due.
Between any two moments the wall clock must not have gained on the monotonic one, by which a fetch
that waits for a retry sleeps: otherwise the retry is due before the fetch wakes. -/
theorem no_idle_slot_while_work (handler : Handler η) (index : Nat) (now : Moment)
    (made : plan.MadeBy failure) (leaves : plan.LeavesFetches)
    (created : Processor.new? config failure = some processor)
    (reachable : shared.backend.Reachable) (unused : shared.backend.fetches = [])
    (passage : Passage (MemoryQueue.sharedSetting handler) index
      { processor := processor, shared := shared } steps service)
    (others : ∀ step ∈ steps, step.move.isForeignFetch = false)
    (timely : (momentsOf steps ++ [now]).Pairwise Moment.Leads)
    (settled : service.SettledAt (MemoryQueue.sharedSetting handler) index now)
    (started : service.processor.crew.loop ≠ .idle)
    (alive : service.processor.crew.loop.hasEnded = false) :
    BusyAt index now service := by
  have unwatched : shared.backend.Unwatched :=
    ⟨unused, List.append_eq_nil_iff.mp (MemoryQueue.nobody_at_bell reachable unused)⟩
  have vigilant := passage_vigilant made leaves created unwatched passage others
  have ordered := schedule_of_reachable (passage_reachable made created reachable passage)
  have lead : ∀ seen ∈ momentsOf steps, seen.Leads now := fun seen before =>
    (List.pairwise_append.mp timely).2.2 seen before now (List.mem_singleton_self now)
  have waits := waits_when_settled vigilant (passage_sound created passage).1
    (passage_prompt created passage) ordered lead settled started alive
  refine ⟨waits, fun idleSlot => ?_⟩
  cases waits with
  | admitting _ crowded =>
      rw [crowded.in_flight] at idleSlot
      exact absurd idleSlot (Nat.lt_irrefl _)
  | fetching _ _ _ exhausted => exact exhausted

end Vigilance

namespace Rehearsal

def slowHandler : Handler Unit := fun _ state =>
  ({ before := [], pause := 1, after := [], verdict := .succeeded }, state)

/-- Until the only slot is with a runner at work and the loop waits with a second message. -/
def filling : List (Move (QueueCall Party)) :=
  [.outside (.enqueue message), .start now, .loop .told now, .loop .told now, .loop .told now,
    .runner 0 0 now, .outside (.enqueue second), .loop .told now, .loop .told now, .loop .told now]

theorem filling_settled :
    ∃ deeds last,
      Service.run (MemoryQueue.sharedSetting slowHandler) 0 filling
          { processor := processor, shared := shared } = some (deeds, last) ∧
        last.SettledAt (MemoryQueue.sharedSetting slowHandler) 0 now ∧
        last.processor.crew.loop = .admitting second true := by
  refine ⟨_, _, rfl, ⟨?_, ?_, rfl⟩, rfl⟩
  · intro cause
    rfl
  · intro ticket draw
    cases ticket <;> rfl

end Rehearsal

open Rehearsal in
theorem rehearsal_slot_is_busy :
    ∃ last,
      last.SettledAt (MemoryQueue.sharedSetting slowHandler) 0 now ∧
        last.processor.crew.loop = .admitting second true ∧
        BusyAt 0 now last := by
  obtain ⟨deeds, last, ran, settled, loop⟩ := filling_settled
  refine ⟨last, settled, loop, ?_⟩
  apply no_idle_slot_while_work slowHandler 0 now (RetryPolicy.plan_made .default)
    (RetryPolicy.plan_leaves_fetches .default) created ⟨[], rfl⟩ rfl (passage_of_run ran)
  case others =>
    intro step member
    have own : ∀ move ∈ filling, move.isForeignFetch = false := by decide
    exact own _ (move_of_transition member)
  case timely =>
    have moments : momentsOf (Service.transitions (MemoryQueue.sharedSetting slowHandler) 0 filling
        { processor := processor, shared := shared }) ++ [now] = List.replicate 9 now := rfl
    rw [moments, List.pairwise_replicate]
    exact .inr ⟨Nat.le_refl _, by simp⟩
  case settled => exact settled
  case started =>
    rw [loop]
    simp
  case alive =>
    rw [loop]
    rfl

end TaskDispatch
