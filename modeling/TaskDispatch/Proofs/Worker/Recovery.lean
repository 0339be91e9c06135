import TaskDispatch.Proofs.Queue.Versions
import TaskDispatch.Proofs.Worker.Calls

/-!
# Recovery after a crash

Processors work on one queue in memory, one after the other: each may vanish between any two steps,
with its loop and all its runners, and the queue stays as they left it. Its next processor finds
there what was in progress. Main statement: the restore with which it starts makes all of it pending
again, and loses nothing, whatever crashes came before.
-/

namespace TaskDispatch

set_option autoImplicit false

section Successions

variable {η : Type}

/-- Processors that follow each other on a queue that was empty at first, and the calls that they
and others have made. Only one is in service, under an index; it is replaced at any time, and the
fetch that its loop may have under way is dropped then. -/
inductive Succession : List (QueueCall Party) → Nat → Service (MemoryQueue Party) η → Prop where
  | begin {config : ProcessorConfig} {failure : FailureHandler Party (MemoryQueue Party)}
      {processor : Processor (MemoryQueue Party)}
      (created : Processor.new? config failure = some processor) (index : Nat)
      (shared : Shared (MemoryQueue Party) η) (empty : shared.backend = .empty) :
      Succession [] index { processor := processor, shared := shared }
  | next {calls : List (QueueCall Party)} {index : Nat}
      {service later : Service (MemoryQueue Party) η} (before : Succession calls index service)
      (handler : Handler η) (plan : ReportPlan) (made : plan.MadeBy service.processor.failure)
      (move : Move (QueueCall Party))
      (moved : service.after? (MemoryQueue.sharedSetting handler) index move = some later) :
      Succession (calls ++ service.queueCalls plan index move) index later
  | replace {calls : List (QueueCall Party)} {index : Nat}
      {service : Service (MemoryQueue Party) η} (before : Succession calls index service)
      {config : ProcessorConfig} {failure : FailureHandler Party (MemoryQueue Party)}
      {processor : Processor (MemoryQueue Party)}
      (created : Processor.new? config failure = some processor) (successor : Nat)
      (shared : Shared (MemoryQueue Party) η)
      (left : shared.backend = (service.shared.backend.cancelFetch (.loop index)).1) :
      Succession (calls ++ [.cancelFetch (.loop index)]) successor
        { processor := processor, shared := shared }

variable {calls : List (QueueCall Party)} {index : Nat} {service last : Service (MemoryQueue Party) η}

/-- The queue of a succession is what the calls have made of it. -/
theorem queue_of_succession (succession : Succession calls index service) :
    service.shared.backend =
      ((QueueAnnals.unused : QueueAnnals Party).serveAll calls).queue := by
  induction succession with
  | begin _ _ _ empty => exact empty
  | @next calls index service later _ handler plan made move moved ih =>
      rw [Service.backend_after_move made moved, ih, QueueAnnals.serve_all_append,
        MemoryQueue.queue_after_calls _ (service.queueCalls plan index move)]
  | replace _ _ _ _ left ih =>
      rw [left, ih, QueueAnnals.serve_all_append]
      rfl

def Service.callsOfRun (handler : Handler η) (plan : ReportPlan) (index : Nat) :
    List (Move (QueueCall Party)) → Service (MemoryQueue Party) η → List (QueueCall Party)
  | [], _ => []
  | move :: moves, service =>
      service.queueCalls plan index move
        ++ match service.after? (MemoryQueue.sharedSetting handler) index move with
          | none => []
          | some later => callsOfRun handler plan index moves later

/-- A run that can be computed continues a succession. -/
theorem succession_of_run {handler : Handler η} {plan : ReportPlan}
    {moves : List (Move (QueueCall Party))} {deeds : List (Deed (QueueCall Party))}
    (before : Succession calls index service) (made : plan.MadeBy service.processor.failure)
    (ran : service.run (MemoryQueue.sharedSetting handler) index moves = some (deeds, last)) :
    Succession (calls ++ service.callsOfRun handler plan index moves) index last := by
  induction moves generalizing calls service deeds with
  | nil =>
      simp only [Service.run, Option.some.injEq, Prod.mk.injEq] at ran
      rw [← ran.2, Service.callsOfRun, List.append_nil]
      exact before
  | cons move moves ih =>
      simp only [Service.run, Option.bind_eq_bind, Option.bind_eq_some_iff, Prod.exists,
        Option.some.injEq, Prod.mk.injEq] at ran
      obtain ⟨later, moved, rest, _, ranOn, _, rfl⟩ := ran
      have failure := (service_step_settings (service_step_cases moved)).2
      rw [Service.callsOfRun, moved, ← List.append_assoc]
      apply ih (before.next handler plan made move moved) _ ranOn
      rw [failure]
      exact made

/-- Whatever crashes came before: a restore makes what is in progress pending again and tells how
much that was, and then everything that was enqueued and is neither completed nor dead is available
exactly once, in the version last given to an enqueue or to an accepted retry. A new processor that
is started does just this. -/
theorem recovery_loses_nothing (succession : Succession calls index service)
    (distinct : ((QueueAnnals.unused : QueueAnnals Party).serveAll calls).enqueued.Nodup) :
    let annals := (QueueAnnals.unused : QueueAnnals Party).serveAll calls
    let store := service.shared.backend.store
    let reply := service.shared.backend.restore
    let restored := reply.state.store
    store = annals.queue.store ∧
      reply.answer = .ok store.inProgress.length ∧
      restored =
        { store with pending := store.pending ++ store.inProgress, inProgress := [] } ∧
      (∀ id ∈ annals.enqueued, id ∉ annals.completed → id ∉ idsOf restored.dead →
        ∃ version, lastGiven? id annals.deeds = some version ∧
          (restored.pending ++ restored.scheduled.map ScheduledTask.message).filter
            (fun message => message.id = id) = [version]) ∧
      (service.processor.state = .created →
        ∀ (handler : Handler η) (now : Moment), ∃ later,
          service.after? (MemoryQueue.sharedSetting handler) index (.start now) = some later ∧
            later.processor.state = .running ∧ later.shared.backend = reply.state) := by
  intro annals store reply restored
  have queue : service.shared.backend = annals.queue := queue_of_succession succession
  have moved : restored = store.restore.2 := service.shared.backend.restored_store
  refine ⟨by rw [← queue], service.shared.backend.restore_answers, moved, ?_, ?_⟩
  · intro id enqueued incomplete undead
    have same : annals.queue.store = store := by rw [← queue]
    have versions := QueueAnnals.versions_after_restore calls distinct id enqueued incomplete
    rw [same] at versions
    rw [moved] at undead ⊢
    exact versions undead
  · intro created handler now
    obtain ⟨later, started, running, _, same⟩ :=
      Service.start_restores (MemoryQueue.sharedSetting handler) rfl created index now
    exact ⟨later, started, running, same⟩

end Successions

namespace Rehearsal

/-- Until the handler is at work on the first message and the loop waits with the second. -/
def crashing : List (Move (QueueCall Party)) :=
  [.outside (.enqueue message), .outside (.enqueue second), .start now, .loop .told now,
    .loop .told now, .loop .told now, .runner 0 0 now, .loop .told now, .loop .told now,
    .loop .told now]

end Rehearsal

open Rehearsal in
theorem rehearsal_is_recovered :
    ∃ (calls : List (QueueCall Party)) (service : Service (MemoryQueue Party) Unit),
      Succession calls 1 service ∧
        service.shared.backend.store.inProgress = [message, second] ∧
        service.shared.backend.restore.answer = .ok 2 ∧
        service.shared.backend.restore.state.store.pending = [message, second] ∧
        ∃ version,
          lastGiven? second.id ((QueueAnnals.unused : QueueAnnals Party).serveAll calls).deeds =
            some version ∧
          (service.shared.backend.restore.state.store.pending
            ++ service.shared.backend.restore.state.store.scheduled.map
              ScheduledTask.message).filter (fun message => message.id = second.id) =
            [version] := by
  have ran : ∃ deeds last,
      Service.run (MemoryQueue.sharedSetting handler) 0 crashing
          { processor := processor, shared := shared } = some (deeds, last) ∧
        last.shared.backend.store.inProgress = [message, second] ∧
        last.shared.backend.store.pending = [] ∧
        last.shared.backend.store.dead = [] := ⟨_, _, rfl, rfl, rfl, rfl⟩
  obtain ⟨deeds, last, ran, inProgress, pending, dead⟩ := ran
  have first : Succession [] 0 { processor := processor, shared := shared } :=
    .begin created 0 shared rfl
  have crashed := succession_of_run first RetryPolicy.default.plan_made ran
  have replaced := crashed.replace created 1
    { last.shared with backend := (last.shared.backend.cancelFetch (.loop 0)).1 } rfl
  obtain ⟨_, answer, restored, versions, _⟩ :=
    recovery_loses_nothing replaced (by decide)
  have store : (last.shared.backend.cancelFetch (.loop 0)).1.store =
      last.shared.backend.store := rfl
  refine ⟨_, _, replaced, inProgress, ?_, ?_, ?_⟩
  · rw [answer, store, inProgress]
    rfl
  · rw [restored, store, inProgress, pending]
    rfl
  · apply versions second.id (by decide) (by decide)
    rw [restored, store, dead]
    exact Multiset.notMem_zero _

end TaskDispatch
