import TaskDispatch.Proofs.Queue.Whereabouts

/-!
# Conservation of tasks

Any number of callers use one queue in memory: they enqueue, fetch, report and restore in any order,
with whatever identifiers they like. The record of this use keeps the identifiers that were enqueued
and those that were completed. Main statement: what was enqueued is exactly what is in the queue
together with what was completed, and a report is refused exactly if nothing in progress has its
identifier, in which case it leaves no trace.
-/

namespace TaskDispatch

set_option autoImplicit false

/-- A call of a queue in memory. A fetch is started and then advanced by atomic steps, between which
other calls may come; it may also be dropped. -/
inductive QueueCall (κ : Type) where
  | enqueue (message : TaskMessage)
  | startFetch (caller : κ) (timeout : Duration) (now : Moment)
  | advanceFetch (caller : κ) (cause : WakeCause) (now : Moment)
  | cancelFetch (caller : κ)
  | report (message : TaskMessage) (report : Report)
  | restore

/-- A queue with the identifiers of all enqueue calls and of all complete calls that succeeded. -/
structure QueueRecord (κ : Type) where
  queue : MemoryQueue κ
  enqueued : Multiset TaskId
  completed : Multiset TaskId

namespace QueueRecord

variable {κ : Type}

def unused : QueueRecord κ where
  queue := .empty
  enqueued := 0
  completed := 0

def completedAfter (record : QueueRecord κ) (message : TaskMessage) (report : Report)
    (answer : Except CallFailure Unit) : Multiset TaskId :=
  match report, answer with
  | .complete, .ok () => record.completed + {message.id}
  | _, _ => record.completed

variable [DecidableEq κ]

/-- Carries out one call. A fetch that has to wait, or whose deadline is beyond the clock, changes
nothing. -/
def serve (record : QueueRecord κ) : QueueCall κ → QueueRecord κ
  | .enqueue message =>
      { record with
        queue := (record.queue.enqueue message).1
        enqueued := record.enqueued + {message.id} }
  | .startFetch caller timeout now =>
      { record with queue := (record.queue.startFetch caller timeout now).getD record.queue }
  | .advanceFetch caller cause now =>
      match record.queue.advanceFetch cause caller now with
      | some (queue, _, _) => { record with queue := queue }
      | none => record
  | .cancelFetch caller => { record with queue := (record.queue.cancelFetch caller).1 }
  | .report message report =>
      let reply := record.queue.report message report
      { record with
        queue := reply.state
        completed := record.completedAfter message report reply.answer }
  | .restore => { record with queue := record.queue.restore.state }

def serveAll (record : QueueRecord κ) (calls : List (QueueCall κ)) : QueueRecord κ :=
  calls.foldl serve record

/-- The books balance: every enqueued identifier is in the queue or completed, as often as it was
enqueued, and the completions are counted. -/
structure Balanced (record : QueueRecord κ) : Prop where
  conserved : record.queue.store.ids + record.completed = record.enqueued
  counted : record.queue.store.done = record.completed.card

omit [DecidableEq κ] in
theorem unused_balanced : (unused : QueueRecord κ).Balanced where
  conserved := rfl
  counted := rfl

omit [DecidableEq κ] in
/-- Calls that only move messages between the places of the store keep the books balanced. -/
theorem Balanced.of_moves {record : QueueRecord κ} (balanced : record.Balanced)
    (queue : MemoryQueue κ) (ids : queue.store.ids = record.queue.store.ids)
    (done : queue.store.done = record.queue.store.done) :
    ({ record with queue := queue } : QueueRecord κ).Balanced where
  conserved := by
    simp only [ids]
    exact balanced.conserved
  counted := by
    simp only [done]
    exact balanced.counted

omit [DecidableEq κ] in
theorem completed_after_acceptance (record : QueueRecord κ) (message : TaskMessage)
    (report : Report) :
    record.completedAfter message report (.ok ()) =
      record.completed + report.leaving message.id := by
  cases report <;> simp [completedAfter, Report.leaving]

omit [DecidableEq κ] in
theorem report_keeps_balance {record : QueueRecord κ} (balanced : record.Balanced)
    (message : TaskMessage) (report : Report) :
    ({ record with
      queue := (record.queue.report message report).state
      completed :=
        record.completedAfter message report (record.queue.report message report).answer } :
      QueueRecord κ).Balanced := by
  by_cases present : record.queue.store.Holds message.id
  · have answer := (record.queue.report_accepted message report present).1
    obtain ⟨_, ids, done⟩ := record.queue.ids_after_report message report present
    constructor
    · rw [answer, completed_after_acceptance, ← balanced.conserved, ← ids, add_right_comm,
        add_assoc]
    · rw [answer, completed_after_acceptance, done, Multiset.card_add, Report.leaving_card,
        balanced.counted]
  · obtain ⟨answer, state⟩ := record.queue.report_refused message report present
    have completed : record.completedAfter message report
        (.error (.refused (.notFound message.id))) = record.completed := by
      cases report <;> rfl
    rw [answer, state, completed]
    exact balanced

theorem fetch_step_keeps_balance {record : QueueRecord κ} (balanced : record.Balanced)
    {caller : κ} {cause : WakeCause} {now : Moment} {queue : MemoryQueue κ} {step : FetchStep}
    {woken : List κ}
    (advanced : record.queue.advanceFetch cause caller now = some (queue, step, woken)) :
    ({ record with queue := queue } : QueueRecord κ).Balanced := by
  obtain ⟨ids, done, _⟩ := MemoryQueue.tasks_after_fetch_step advanced
  exact balanced.of_moves queue ids done

/-- Every call keeps the books balanced. -/
theorem serve_keeps_balance {record : QueueRecord κ} (balanced : record.Balanced)
    (call : QueueCall κ) : (record.serve call).Balanced := by
  cases call with
  | enqueue message =>
      constructor
      · change (record.queue.store.enqueue message).ids + record.completed =
          record.enqueued + {message.id}
        rw [Store.ids_after_enqueue, ← balanced.conserved, Multiset.cons_add,
          ← Multiset.singleton_add, add_comm]
      · exact balanced.counted
  | startFetch caller timeout now =>
      simp only [serve]
      cases deadline : now.deadline? timeout with
      | none => simpa [MemoryQueue.startFetch, deadline] using balanced
      | some deadline =>
          apply balanced.of_moves <;>
            simp [MemoryQueue.startFetch, deadline]
  | advanceFetch caller cause now =>
      simp only [serve]
      cases advanced : record.queue.advanceFetch cause caller now with
      | none => exact balanced
      | some outcome => exact fetch_step_keeps_balance balanced advanced
  | cancelFetch caller => exact balanced.of_moves _ rfl rfl
  | report message report => exact report_keeps_balance balanced message report
  | restore =>
      apply balanced.of_moves
      · rw [MemoryQueue.restored_store, Store.ids_after_restore]
      · rw [MemoryQueue.restored_store]
        rfl

theorem serve_all_keeps_balance {record : QueueRecord κ} (balanced : record.Balanced)
    (calls : List (QueueCall κ)) : (record.serveAll calls).Balanced := by
  induction calls generalizing record with
  | nil => exact balanced
  | cons call calls ih => exact ih (serve_keeps_balance balanced call)

/-- Nothing is lost and nothing is doubled, whatever calls come in whatever order: what was enqueued
is what is in the four places together with what was completed, and the counts add up. A report is
refused exactly if nothing in progress has its identifier, and then the queue is as it was. -/
theorem every_task_is_accounted_for (calls : List (QueueCall κ)) :
    let record := (unused : QueueRecord κ).serveAll calls
    let store := record.queue.store
    store.ids + record.completed = record.enqueued ∧
      store.done = record.completed.card ∧
      store.counts.pending + store.counts.inProgress + store.counts.scheduled
        + store.counts.dead + store.counts.done = record.enqueued.card ∧
      ∀ (message : TaskMessage) (report : Report),
        let reply := record.queue.report message report
        (reply.answer = .ok () ∨
            reply.answer = .error (.refused (.notFound message.id))) ∧
          (reply.answer = .error (.refused (.notFound message.id)) ↔
            ∀ entry ∈ store.inProgress, entry.id ≠ message.id) ∧
          (reply.answer = .error (.refused (.notFound message.id)) →
            reply.state = record.queue) := by
  intro record store
  have balanced : record.Balanced := serve_all_keeps_balance unused_balanced calls
  refine ⟨balanced.conserved, balanced.counted, ?_, ?_⟩
  · rw [Store.counts_sum, ← balanced.conserved, Multiset.card_add, balanced.counted]
  · intro message report reply
    have exactly : reply.answer = .error (.refused (.notFound message.id)) ↔
        ¬ store.Holds message.id := record.queue.report_refused_iff message report
    refine ⟨?_, ?_, ?_⟩
    · by_cases present : store.Holds message.id
      · exact .inl (record.queue.report_accepted message report present).1
      · exact .inr (exactly.mpr present)
    · simpa [Store.Holds] using exactly
    · intro refused
      exact (record.queue.report_refused message report (exactly.mp refused)).2

end QueueRecord

end TaskDispatch
