import Mathlib.Data.List.Perm.Basic
import TaskDispatch.Queue.Memory

/-!
# Reports on messages in progress

Completing, retrying and killing a message are three reports of one shape: the first entry in
progress with the identifier is taken out, and what the report says is filed. Without such an entry
the report is refused and nothing changes. A report is therefore described by two facts, one for a
message that is in progress and one for a message that is not.
-/

namespace TaskDispatch

set_option autoImplicit false

inductive Report where
  | complete
  | retry (retryAt : Timestamp)
  | kill
  deriving DecidableEq

namespace Store

def Holds (store : Store) (id : TaskId) : Prop := ∃ entry ∈ store.inProgress, entry.id = id

instance (store : Store) (id : TaskId) : Decidable (store.Holds id) :=
  inferInstanceAs (Decidable (∃ entry ∈ store.inProgress, entry.id = id))

def report (message : TaskMessage) (store : Store) : Report → Except BackendError Store
  | .complete => store.complete message
  | .retry retryAt => store.retry message retryAt
  | .kill => store.kill message

/-- Files what a report says, once the entry in progress has been taken out. -/
def file (message : TaskMessage) (store : Store) : Report → Store
  | .complete => { store with done := store.done + 1 }
  | .retry retryAt =>
      { store with
        scheduled :=
          schedule
            { retryAt := retryAt, sequence := store.nextSequence, message := message }
            store.scheduled
        nextSequence := store.nextSequence + 1 }
  | .kill => { store with dead := store.dead ++ [message] }

theorem remove_by_id_absent (id : TaskId) (messages : List TaskMessage)
    (absent : ∀ entry ∈ messages, entry.id ≠ id) : removeById id messages = none := by
  induction messages with
  | nil => rfl
  | cons head tail ih =>
      have headOther : head.id ≠ id := absent head (List.mem_cons_self ..)
      have tailAbsent := ih fun entry member => absent entry (List.mem_cons_of_mem _ member)
      simp only [removeById, if_neg headOther, tailAbsent, Option.map_none]

/-- Moving the last entry into the gap loses and doubles nothing. -/
theorem remove_by_id_present (id : TaskId) (messages : List TaskMessage)
    (present : ∃ entry ∈ messages, entry.id = id) :
    ∃ found others, removeById id messages = some (found, others) ∧
      found.id = id ∧ messages.Perm (found :: others) := by
  induction messages with
  | nil => simp at present
  | cons head tail ih =>
      by_cases own : head.id = id
      · simp only [removeById, if_pos own]
        cases lastOf : tail.getLast? with
        | none =>
            have empty : tail = [] := List.getLast?_eq_none_iff.mp lastOf
            exact ⟨head, [], rfl, own, by rw [empty]⟩
        | some last =>
            have split : tail.dropLast ++ [last] = tail :=
              List.dropLast_append_getLast? last lastOf
            refine ⟨head, last :: tail.dropLast, rfl, own, List.Perm.cons head ?_⟩
            calc
              tail.Perm (tail.dropLast ++ [last]) := by rw [split]
              (tail.dropLast ++ [last]).Perm (last :: tail.dropLast) :=
                List.perm_append_singleton last tail.dropLast
      · have inTail : ∃ entry ∈ tail, entry.id = id := by
          obtain ⟨entry, member, same⟩ := present
          rcases List.mem_cons.mp member with rfl | member
          · exact absurd same own
          · exact ⟨entry, member, same⟩
        obtain ⟨found, others, removed, same, perm⟩ := ih inTail
        refine ⟨found, head :: others, ?_, same, ?_⟩
        · simp only [removeById, if_neg own, removed, Option.map_some]
        · exact (List.Perm.cons head perm).trans (List.Perm.swap found head others)

/-- A report takes the entry out and files what it says. -/
theorem report_eq_take_then_file (message : TaskMessage) (store : Store) (report : Report) :
    store.report message report =
      (store.takeInProgress message.id).map fun taken => taken.2.file message report := by
  cases report <;>
    simp only [Store.report, complete, retry, kill] <;>
    cases store.takeInProgress message.id <;> rfl

theorem report_absent (message : TaskMessage) (store : Store) (report : Report)
    (absent : ¬ store.Holds message.id) :
    store.report message report = .error (.notFound message.id) := by
  have removed := remove_by_id_absent message.id store.inProgress fun entry member same =>
    absent ⟨entry, member, same⟩
  simp only [report_eq_take_then_file, takeInProgress, removed, Except.map]

theorem report_present (message : TaskMessage) (store : Store) (report : Report)
    (present : store.Holds message.id) :
    ∃ found others, found.id = message.id ∧ store.inProgress.Perm (found :: others) ∧
      store.report message report =
        .ok (({ store with inProgress := others } : Store).file message report) := by
  obtain ⟨found, others, removed, same, perm⟩ :=
    remove_by_id_present message.id store.inProgress present
  refine ⟨found, others, same, perm, ?_⟩
  simp only [report_eq_take_then_file, takeInProgress, removed, Except.map]

/-- A retry takes a place among the scheduled messages and moves none of them away. -/
theorem schedule_perm (entry : ScheduledTask) (entries : List ScheduledTask) :
    (schedule entry entries).Perm (entry :: entries) := by
  induction entries with
  | nil => exact List.Perm.refl _
  | cons first others ih =>
      simp only [schedule]
      split
      · exact (List.Perm.cons first ih).trans (List.Perm.swap entry first others)
      · exact List.Perm.refl _

end Store

namespace MemoryQueue

variable {κ : Type}

def report (message : TaskMessage) (queue : MemoryQueue κ) :
    Report → Reply κ (MemoryQueue κ) Unit
  | .complete => queue.complete message
  | .retry retryAt => queue.retry message retryAt
  | .kill => queue.kill message

theorem store_after_ring (queue : MemoryQueue κ) : queue.ring.1.store = queue.store := rfl

/-- A report on a message that is not in progress is refused, and changes nothing at all. -/
theorem report_refused (message : TaskMessage) (queue : MemoryQueue κ) (report : Report)
    (absent : ¬ queue.store.Holds message.id) :
    (queue.report message report).answer = .error (.refused (.notFound message.id)) ∧
      (queue.report message report).state = queue := by
  have refused := queue.store.report_absent message report absent
  cases report <;>
    simp only [Store.report] at refused <;>
    simp [MemoryQueue.report, complete, retry, kill, quietly, refused]

/-- A report on a message in progress is accepted: the store takes one entry with its identifier
out and files the report. -/
theorem report_accepted (message : TaskMessage) (queue : MemoryQueue κ) (report : Report)
    (present : queue.store.Holds message.id) :
    (queue.report message report).answer = .ok () ∧
      ∃ found others, found.id = message.id ∧
        queue.store.inProgress.Perm (found :: others) ∧
        (queue.report message report).state.store =
          ({ queue.store with inProgress := others } : Store).file message report := by
  obtain ⟨found, others, same, perm, accepted⟩ :=
    queue.store.report_present message report present
  refine ⟨?_, found, others, same, perm, ?_⟩ <;>
    cases report <;>
    simp only [Store.report] at accepted <;>
    simp [MemoryQueue.report, complete, retry, kill, quietly, accepted, store_after_ring]

/-- Exactly the reports on messages that are not in progress are refused. -/
theorem report_refused_iff (message : TaskMessage) (queue : MemoryQueue κ) (report : Report) :
    (queue.report message report).answer = .error (.refused (.notFound message.id)) ↔
      ¬ queue.store.Holds message.id := by
  constructor
  · intro refused present
    have accepted := (queue.report_accepted message report present).1
    rw [accepted] at refused
    cases refused
  · intro absent
    exact (queue.report_refused message report absent).1

/-- No report panics. -/
theorem report_returns (message : TaskMessage) (queue : MemoryQueue κ) (report : Report) :
    (queue.report message report).hasPanicked = false := by
  by_cases present : queue.store.Holds message.id
  · have answer := (queue.report_accepted message report present).1
    simp [Reply.hasPanicked, answer]
  · have answer := (queue.report_refused message report present).1
    simp [Reply.hasPanicked, answer]

end MemoryQueue

end TaskDispatch
