import Mathlib.Data.Multiset.OrderedMonoid
import Mathlib.Tactic.Abel
import TaskDispatch.Proofs.Queue.Report

/-!
# Where the tasks of a queue are

The identifiers in the four places of a store, counted with their repetitions. Every operation moves
messages between the places or replaces one by a new version of it: an enqueued message adds its
identifier, a completed one takes its own away, and nothing else changes the collection.
-/

namespace TaskDispatch

set_option autoImplicit false

/-- The identifiers of messages, each as often as it occurs. -/
def idsOf (messages : List TaskMessage) : Multiset TaskId := ↑(messages.map TaskMessage.id)

@[simp] theorem ids_of_nil : idsOf [] = 0 := rfl

@[simp] theorem ids_of_cons (message : TaskMessage) (messages : List TaskMessage) :
    idsOf (message :: messages) = message.id ::ₘ idsOf messages := rfl

@[simp] theorem ids_of_append (front back : List TaskMessage) :
    idsOf (front ++ back) = idsOf front + idsOf back := by
  simp [idsOf]

@[simp] theorem ids_of_card (messages : List TaskMessage) :
    (idsOf messages).card = messages.length := by
  simp [idsOf]

theorem ids_of_perm {left right : List TaskMessage} (perm : left.Perm right) :
    idsOf left = idsOf right :=
  Multiset.coe_eq_coe.mpr (perm.map TaskMessage.id)

theorem mem_ids_of {id : TaskId} {messages : List TaskMessage} :
    id ∈ idsOf messages ↔ ∃ entry ∈ messages, entry.id = id := by
  simp [idsOf]

/-- Where identifiers are distinct, nothing else has the identifier of a message. -/
theorem filter_of_distinct {id : TaskId} {messages : List TaskMessage} {message : TaskMessage}
    (distinct : (messages.map TaskMessage.id).Nodup) (member : message ∈ messages)
    (own : message.id = id) : messages.filter (fun other => other.id = id) = [message] := by
  obtain ⟨front, back, rfl⟩ := List.append_of_mem member
  rw [List.map_append, List.map_cons, List.nodup_middle, List.nodup_cons] at distinct
  have others : ∀ other ∈ front ++ back, ¬ decide (other.id = id) = true := by
    intro other present same
    apply distinct.1
    rw [← List.map_append, own, ← of_decide_eq_true same]
    exact List.mem_map_of_mem present
  have before : front.filter (fun other => other.id = id) = [] := by
    rw [List.filter_eq_nil_iff]
    intro other present
    exact others other (List.mem_append_left _ present)
  have behind : back.filter (fun other => other.id = id) = [] := by
    rw [List.filter_eq_nil_iff]
    intro other present
    exact others other (List.mem_append_right _ present)
  rw [List.filter_append, List.filter_cons_of_pos (by simpa using own), before, behind,
    List.nil_append]

namespace Report

/-- The identifiers that leave the queue with a report: only a completed task does. -/
def leaving (id : TaskId) : Report → Multiset TaskId
  | .complete => {id}
  | _ => 0

def finished : Report → Nat
  | .complete => 1
  | _ => 0

def renewed (message : TaskMessage) : Report → Multiset TaskMessage
  | .retry _ => {message}
  | _ => 0

def buried (message : TaskMessage) : Report → List TaskMessage
  | .kill => [message]
  | _ => []

theorem leaving_card (id : TaskId) (report : Report) :
    (report.leaving id).card = report.finished := by
  cases report <;> rfl

end Report

namespace Store

/-- The messages that may still be executed: all but the dead ones. -/
def alive (store : Store) : Multiset TaskMessage :=
  ↑store.pending + ↑store.inProgress + ↑(store.scheduled.map ScheduledTask.message)

theorem alive_after_enqueue (message : TaskMessage) (store : Store) :
    (store.enqueue message).alive = message ::ₘ store.alive := by
  simp only [alive, enqueue, ← Multiset.coe_add, Multiset.coe_singleton]
  rw [← Multiset.singleton_add]
  abel

theorem alive_after_promotion (wall : Timestamp) (store : Store) :
    (store.promoteDue wall).alive = store.alive := by
  have split : ((store.scheduled.map ScheduledTask.message : List TaskMessage) :
      Multiset TaskMessage) =
        ↑((store.scheduled.takeWhile (isDue wall)).map ScheduledTask.message)
          + ↑((store.scheduled.dropWhile (isDue wall)).map ScheduledTask.message) := by
    rw [Multiset.coe_add, ← List.map_append, List.takeWhile_append_dropWhile]
  simp only [alive, promoteDue, ← Multiset.coe_add, split]
  abel

/-- What a fetch takes from the pending messages, it puts behind those in progress. -/
theorem in_progress_after_fetch (wall : Timestamp) (store : Store) :
    (store.fetch wall).2.inProgress = store.inProgress ++ (store.fetch wall).1.toList := by
  simp only [fetch]
  split <;> simp [promoteDue]

theorem alive_after_fetch (wall : Timestamp) (store : Store) :
    (store.fetch wall).2.alive = store.alive := by
  rw [← alive_after_promotion wall store]
  simp only [fetch]
  split
  case h_1 => rfl
  case h_2 message others taken =>
    simp only [alive, taken, ← Multiset.coe_add, ← Multiset.cons_coe, ← Multiset.singleton_add,
      Multiset.coe_nil]
    abel

theorem dead_after_fetch (wall : Timestamp) (store : Store) :
    (store.fetch wall).2.dead = store.dead := by
  simp only [fetch]
  split <;> rfl

theorem alive_after_restore (store : Store) : store.restore.2.alive = store.alive := by
  simp only [alive, restore, ← Multiset.coe_add, Multiset.coe_nil]
  abel

theorem alive_after_file (message : TaskMessage) (store : Store) (report : Report) :
    (store.file message report).alive = report.renewed message + store.alive := by
  cases report with
  | complete => simp [file, alive, Report.renewed]
  | retry retryAt =>
      have scheduled := (schedule_perm
        { retryAt := retryAt, sequence := store.nextSequence, message := message }
        store.scheduled).map ScheduledTask.message
      simp only [file, alive, Report.renewed, Multiset.coe_eq_coe.mpr scheduled, List.map_cons,
        ← Multiset.cons_coe, ← Multiset.singleton_add]
      abel
  | kill => simp [file, alive, Report.renewed]

theorem dead_after_file (message : TaskMessage) (store : Store) (report : Report) :
    (store.file message report).dead = store.dead ++ report.buried message := by
  cases report <;> simp [file, Report.buried]

def ids (store : Store) : Multiset TaskId :=
  idsOf store.pending + idsOf store.inProgress
    + idsOf (store.scheduled.map ScheduledTask.message) + idsOf store.dead

theorem ids_eq_alive_and_dead (store : Store) :
    store.ids = store.alive.map TaskMessage.id + idsOf store.dead := by
  simp [ids, alive, idsOf]

theorem alive_nodup {store : Store} (distinct : store.ids.Nodup) :
    (store.alive.map TaskMessage.id).Nodup := by
  rw [ids_eq_alive_and_dead] at distinct
  exact Multiset.nodup_of_le (Multiset.le_add_right _ _) distinct

theorem in_progress_le_alive (store : Store) :
    (↑store.inProgress : Multiset TaskMessage) ≤ store.alive := by
  rw [alive, add_right_comm]
  exact Multiset.le_add_left _ _

theorem holds_iff_mem {store : Store} {id : TaskId} :
    store.Holds id ↔ id ∈ idsOf store.inProgress :=
  mem_ids_of.symm

theorem counts_sum (store : Store) :
    store.counts.pending + store.counts.inProgress + store.counts.scheduled
      + store.counts.dead + store.counts.done = store.ids.card + store.done := by
  simp [ids, counts]

@[simp] theorem ids_after_enqueue (message : TaskMessage) (store : Store) :
    (store.enqueue message).ids = message.id ::ₘ store.ids := by
  simp only [ids_eq_alive_and_dead, alive_after_enqueue, Multiset.map_cons, Multiset.cons_add]
  rfl

@[simp] theorem ids_after_fetch (wall : Timestamp) (store : Store) :
    (store.fetch wall).2.ids = store.ids := by
  simp only [ids_eq_alive_and_dead, alive_after_fetch, dead_after_fetch]

@[simp] theorem done_after_fetch (wall : Timestamp) (store : Store) :
    (store.fetch wall).2.done = store.done := by
  simp only [fetch]
  split <;> rfl

@[simp] theorem ids_after_restore (store : Store) : store.restore.2.ids = store.ids := by
  simp only [ids_eq_alive_and_dead, alive_after_restore]
  rfl

/-- The filed version of a message has the place of the entry that was taken out, unless the task
is completed. -/
theorem ids_after_file (message : TaskMessage) (store : Store) (report : Report) :
    (store.file message report).ids + report.leaving message.id =
      message.id ::ₘ store.ids := by
  simp only [ids_eq_alive_and_dead, alive_after_file, dead_after_file, ids_of_append,
    Multiset.map_add, ← Multiset.singleton_add]
  cases report <;>
    simp only [Report.renewed, Report.buried, Report.leaving, Multiset.map_zero,
      Multiset.map_singleton, ids_of_nil, ids_of_cons, ← Multiset.singleton_add] <;>
    abel

theorem done_after_file (message : TaskMessage) (store : Store) (report : Report) :
    (store.file message report).done = store.done + report.finished := by
  cases report <;> rfl

theorem in_progress_after_file (message : TaskMessage) (store : Store) (report : Report) :
    (store.file message report).inProgress = store.inProgress := by
  cases report <;> rfl

end Store

def FetchStep.taken? : FetchStep → Option TaskMessage
  | .returned (.ok found) => found
  | _ => none

namespace MemoryQueue

variable {κ : Type}

/-- An accepted report takes one entry with the identifier of its message out of those in progress;
over all places only a completed task is gone, and it is counted. -/
theorem ids_after_report (message : TaskMessage) (queue : MemoryQueue κ) (report : Report)
    (present : queue.store.Holds message.id) :
    message.id ::ₘ idsOf (queue.report message report).state.store.inProgress =
        idsOf queue.store.inProgress ∧
      (queue.report message report).state.store.ids + report.leaving message.id =
        queue.store.ids ∧
      (queue.report message report).state.store.done = queue.store.done + report.finished := by
  obtain ⟨_, found, others, same, perm, filed⟩ :=
    queue.report_accepted message report present
  have taken : idsOf queue.store.inProgress = message.id ::ₘ idsOf others := by
    rw [ids_of_perm perm, ids_of_cons, same]
  rw [filed]
  refine ⟨?_, ?_, ?_⟩
  · rw [Store.in_progress_after_file, taken]
  · rw [Store.ids_after_file]
    simp only [Store.ids, taken, Multiset.add_cons, Multiset.cons_add]
  · rw [Store.done_after_file]

theorem restored_store (queue : MemoryQueue κ) :
    queue.restore.state.store = queue.store.restore.2 := by
  by_cases orphaned : 0 < queue.store.inProgress.length
  · simp only [restore, Store.restore, orphaned, if_true]
    rfl
  · simp only [restore, Store.restore, orphaned, if_false]

theorem restore_answers (queue : MemoryQueue κ) :
    queue.restore.answer = .ok queue.store.inProgress.length := by
  by_cases orphaned : 0 < queue.store.inProgress.length
  · simp only [restore, Store.restore, orphaned, if_true]
  · simp only [restore, Store.restore, orphaned, if_false]

variable [DecidableEq κ]

/-- A fetch changes the store only by a look at it, and the look that takes a message is the step
that returns it. -/
theorem store_after_fetch_step {queue next : MemoryQueue κ} {cause : WakeCause} {caller : κ}
    {now : Moment} {step : FetchStep} {woken : List κ}
    (advanced : queue.advanceFetch cause caller now = some (next, step, woken)) :
    (∃ message, step = .returned (.ok (some message)) ∧
        queue.store.fetch now.wall = (some message, next.store)) ∨
      ((step = .moved ∨ step = .returned (.ok none)) ∧
        (next.store = queue.store ∨ queue.store.fetch now.wall = (none, next.store))) := by
  simp only [advanceFetch, Option.bind_eq_bind, Option.bind_eq_some_iff] at advanced
  obtain ⟨fetch, _, advanced⟩ := advanced
  cases stage : fetch.stage with
  | looking =>
      simp only [stage, look, Option.some.injEq, Prod.mk.injEq] at advanced
      cases looked : queue.store.fetch now.wall with
      | mk found store =>
          simp only [looked] at advanced
          cases found with
          | none =>
              obtain ⟨rfl, rfl, _⟩ := advanced
              exact .inr ⟨.inl rfl, .inr rfl⟩
          | some message =>
              obtain ⟨rfl, rfl, _⟩ := advanced
              exact .inl ⟨message, rfl, rfl⟩
  | looked nextRetry =>
      simp only [stage, settle, Option.some.injEq, Prod.mk.injEq] at advanced
      obtain ⟨rfl, rfl, _⟩ := advanced
      right
      split
      · exact ⟨.inr rfl, .inl rfl⟩
      · split
        · exact ⟨.inl rfl, .inl rfl⟩
        · split <;> exact ⟨.inl rfl, .inl rfl⟩
  | asleep wakeAt =>
      simp only [stage, Option.bind_eq_some_iff] at advanced
      obtain ⟨⟨woke, parties⟩, woken, advanced⟩ := advanced
      simp only [Option.some.injEq, Prod.mk.injEq] at advanced
      obtain ⟨rfl, rfl, _⟩ := advanced
      refine .inr ⟨.inl rfl, .inl ?_⟩
      cases cause <;> simp only [wake] at woken <;> split at woken <;>
        simp only [Option.some.injEq, Prod.mk.injEq, reduceCtorEq] at woken
      all_goals
        obtain ⟨rfl, _⟩ := woken
        rfl

/-- A step of a fetch keeps all tasks in the queue, and what it returns it puts behind those in
progress. -/
theorem tasks_after_fetch_step {queue next : MemoryQueue κ} {cause : WakeCause} {caller : κ}
    {now : Moment} {step : FetchStep} {woken : List κ}
    (advanced : queue.advanceFetch cause caller now = some (next, step, woken)) :
    next.store.ids = queue.store.ids ∧ next.store.done = queue.store.done ∧
      next.store.inProgress = queue.store.inProgress ++ step.taken?.toList := by
  have looked {found : Option TaskMessage}
      (look : queue.store.fetch now.wall = (found, next.store)) :
      next.store.ids = queue.store.ids ∧ next.store.done = queue.store.done ∧
        next.store.inProgress = queue.store.inProgress ++ found.toList := by
    have store : next.store = (queue.store.fetch now.wall).2 := by rw [look]
    have taken : found = (queue.store.fetch now.wall).1 := by rw [look]
    rw [store, taken]
    exact
      ⟨Store.ids_after_fetch _ _, Store.done_after_fetch _ _,
        Store.in_progress_after_fetch _ _⟩
  rcases store_after_fetch_step advanced with ⟨message, rfl, look⟩ | ⟨nothing, unchanged⟩
  · exact looked look
  · have taken : step.taken? = none := by
      rcases nothing with rfl | rfl <;> rfl
    rw [taken]
    rcases unchanged with same | look
    · simp [same]
    · exact looked look

end MemoryQueue

end TaskDispatch
