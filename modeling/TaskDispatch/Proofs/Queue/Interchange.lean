import TaskDispatch.Proofs.Queue.Consumers

/-!
# Reports in any order

Several reports are made one after the other, on messages that are in progress once each. All of
them are accepted, and what they leave in each place of the store can be told from the reports
without their order, up to the order of the entries: so two orders of the same reports leave the
same. Where the scheduled retries have distinct times, even their order is the same, and so is the
order in which later fetches let them in.
-/

namespace TaskDispatch

set_option autoImplicit false

/-- A report together with the version of the message that it leaves. -/
structure Notice where
  message : TaskMessage
  report : Report
  deriving DecidableEq

namespace Notice

def id (notice : Notice) : TaskId := notice.message.id

def call {κ : Type} (notice : Notice) : QueueCall κ := .report notice.message notice.report

def appointed (notice : Notice) : List (Timestamp × TaskMessage) :=
  match notice.report with
  | .retry retryAt => [(retryAt, notice.message)]
  | _ => []

def buried (notice : Notice) : List TaskMessage := notice.report.buried notice.message

def finished (notice : Notice) : Nat := notice.report.finished

end Notice

namespace Store

def HoldsOnce (store : Store) (id : TaskId) : Prop :=
  store.inProgress.countP (fun entry => entry.id = id) = 1

instance (store : Store) (id : TaskId) : Decidable (store.HoldsOnce id) :=
  inferInstanceAs (Decidable (_ = _))

structure Noted (notices : List Notice) (store next : Store) : Prop where
  pending : next.pending = store.pending
  in_progress : next.inProgress.Perm
    (store.inProgress.filter fun entry => entry.id ∉ notices.map Notice.id)
  scheduled : next.scheduledTasks.Perm (store.scheduledTasks ++ notices.flatMap Notice.appointed)
  dead : next.dead = store.dead ++ notices.flatMap Notice.buried
  done : next.done = store.done + (notices.map Notice.finished).sum

/-- Two stores hold the same, up to the order of what is in progress, scheduled or dead. -/
structure SameContents (left right : Store) : Prop where
  pending : left.pending = right.pending
  in_progress : left.inProgress.Perm right.inProgress
  scheduled : left.scheduledTasks.Perm right.scheduledTasks
  dead : left.dead.Perm right.dead
  done : left.done = right.done

variable {store next last left right : Store}

theorem noted_nothing (store : Store) : store.Noted [] store where
  pending := rfl
  in_progress := by simp
  scheduled := by simp
  dead := by simp
  done := rfl

theorem Noted.trans {early late : List Notice} (first : store.Noted early next)
    (second : next.Noted late last) : store.Noted (early ++ late) last where
  pending := second.pending.trans first.pending
  in_progress := by
    have both := second.in_progress.trans (first.in_progress.filter _)
    rw [List.filter_filter] at both
    apply both.trans
    apply List.Perm.of_eq
    apply List.filter_congr
    intro entry _
    rw [List.map_append, Bool.and_comm]
    simp
  scheduled := by
    rw [List.flatMap_append, ← List.append_assoc]
    exact second.scheduled.trans (first.scheduled.append_right _)
  dead := by rw [List.flatMap_append, ← List.append_assoc, second.dead, first.dead]
  done := by rw [List.map_append, List.sum_append, second.done, first.done, Nat.add_assoc]

/-- Notices in another order leave the same. -/
theorem Noted.same_contents {notices others : List Notice} (same : notices.Perm others)
    (first : store.Noted notices left) (second : store.Noted others right) :
    left.SameContents right where
  pending := first.pending.trans second.pending.symm
  in_progress := by
    have chosen : (store.inProgress.filter fun entry => entry.id ∉ notices.map Notice.id) =
        store.inProgress.filter fun entry => entry.id ∉ others.map Notice.id := by
      apply List.filter_congr
      intro entry _
      simp only [(same.map Notice.id).mem_iff]
    exact first.in_progress.trans (chosen ▸ second.in_progress.symm)
  scheduled := by
    have appointed := (same.flatMap_right Notice.appointed).append_left store.scheduledTasks
    exact first.scheduled.trans (appointed.trans second.scheduled.symm)
  dead := by
    rw [first.dead, second.dead]
    exact (same.flatMap_right Notice.buried).append_left store.dead
  done := by rw [first.done, second.done, (same.map Notice.finished).sum_nat]

theorem SameContents.counts (same : left.SameContents right) : left.counts = right.counts := by
  have scheduled : left.scheduled.length = right.scheduled.length := by
    simpa [scheduledTasks] using same.scheduled.length_eq
  simp only [Store.counts, same.pending, same.in_progress.length_eq, scheduled,
    same.dead.length_eq, same.done]

theorem holds_of_once {id : TaskId} (once : store.HoldsOnce id) : store.Holds id := by
  have someEntry : 0 < store.inProgress.countP fun entry => entry.id = id := by
    rw [once]
    exact Nat.one_pos
  obtain ⟨entry, member, own⟩ := List.countP_pos_iff.mp someEntry
  exact ⟨entry, member, of_decide_eq_true own⟩

/-- The entry that a report takes out was the only one with its identifier. -/
theorem others_of_once {id : TaskId} {found : TaskMessage} {others : List TaskMessage}
    (once : store.HoldsOnce id) (own : found.id = id)
    (taken : store.inProgress.Perm (found :: others)) :
    others.Perm (store.inProgress.filter fun entry => entry.id ∉ [id]) := by
  have alone : others.countP (fun entry => entry.id = id) = 0 := by
    have counted := taken.countP_eq fun entry : TaskMessage => entry.id = id
    rw [List.countP_cons_of_pos (by simpa using own)] at counted
    unfold HoldsOnce at once
    omega
  have kept : others.filter (fun entry => entry.id ∉ [id]) = others := by
    rw [List.filter_eq_self]
    intro entry member
    have differs := List.countP_eq_zero.mp alone entry member
    simpa using differs
  have around := (taken.filter fun entry => entry.id ∉ [id]).symm
  rwa [List.filter_cons_of_neg (by simp [own]), kept] at around

/-- Another identifier is still there once. -/
theorem Noted.still_once {notice : Notice} {id : TaskId} (noted : store.Noted [notice] next)
    (differs : id ≠ notice.id) (once : store.HoldsOnce id) : next.HoldsOnce id := by
  unfold HoldsOnce at once ⊢
  rw [noted.in_progress.countP_eq, List.countP_filter, ← once]
  apply List.countP_congr
  intro entry _
  simp only [List.map_cons, List.map_nil, List.mem_singleton, Bool.and_eq_true,
    decide_eq_true_eq, and_iff_left_iff_imp]
  rintro rfl
  exact differs

theorem file_noted {notice : Notice} {others : List TaskMessage}
    (taken : others.Perm (store.inProgress.filter fun entry => entry.id ∉ [notice.id])) :
    store.Noted [notice]
      (({ store with inProgress := others } : Store).file notice.message notice.report) := by
  obtain ⟨message, report⟩ := notice
  constructor
  case pending => cases report <;> rfl
  case in_progress =>
    rw [in_progress_after_file]
    exact taken
  case scheduled =>
    cases report with
    | retry retryAt =>
        have placed := (schedule_perm
          { retryAt := retryAt, sequence := store.nextSequence, message := message }
          store.scheduled).map fun entry => (entry.retryAt, entry.message)
        exact placed.trans (List.perm_append_singleton _ _).symm
    | complete | kill => simp [file, scheduledTasks, Notice.appointed]
  case dead =>
    rw [dead_after_file]
    simp [Notice.buried]
  case done =>
    rw [done_after_file]
    simp [Notice.finished]

section Order

/-- Schedules of the same retries at distinct times stand in the same order. -/
theorem same_order (orderedLeft : InOrder left.scheduled) (orderedRight : InOrder right.scheduled)
    (same : left.scheduledTasks.Perm right.scheduledTasks)
    (distinct : (left.scheduledTasks.map Prod.fst).Nodup) :
    left.scheduledTasks = right.scheduledTasks := by
  have byTime {store : Store} (ordered : InOrder store.scheduled) :
      store.scheduledTasks.Pairwise fun first second => first.1.nanos ≤ second.1.nanos := by
    apply List.pairwise_map.mpr
    apply ordered.imp
    intro first second before
    rw [ScheduledTask.precedes_iff] at before
    change first.retryAt.nanos ≤ second.retryAt.nanos
    omega
  apply List.Perm.eq_of_pairwise _ (byTime orderedLeft) (byTime orderedRight) same
  intro first second inLeft inRight front back
  have oneTime : first.1 = second.1 := Timestamp.eq_iff_nanos.mpr (Int.le_antisymm front back)
  exact List.inj_on_of_nodup_map distinct inLeft (same.mem_iff.mpr inRight) oneTime

theorem due_messages (wall : Timestamp) (store : Store) :
    (store.scheduled.takeWhile (isDue wall)).map ScheduledTask.message =
      (store.scheduledTasks.takeWhile fun task => task.1 ≤ wall).map Prod.snd := by
  rw [scheduledTasks, List.takeWhile_map, List.map_map]
  rfl

/-- Stores that pend the same and schedule the same in the same order answer fetches alike. -/
theorem same_fetch (pending : left.pending = right.pending)
    (scheduled : left.scheduledTasks = right.scheduledTasks) (wall : Timestamp) :
    (left.promoteDue wall).pending = (right.promoteDue wall).pending ∧
      (left.fetch wall).1 = (right.fetch wall).1 ∧
      (left.fetch wall).2.pending = (right.fetch wall).2.pending := by
  have promoted : (left.promoteDue wall).pending = (right.promoteDue wall).pending := by
    simp only [promoteDue, due_messages, pending, scheduled]
  refine ⟨promoted, ?_⟩
  simp only [fetch, promoted]
  cases (right.promoteDue wall).pending with
  | nil => exact ⟨rfl, promoted⟩
  | cons message others => exact ⟨rfl, rfl⟩

end Order

end Store

namespace MemoryQueue

variable {κ : Type}

theorem report_noted {queue : MemoryQueue κ} {notice : Notice}
    (once : queue.store.HoldsOnce notice.id) :
    (queue.report notice.message notice.report).answer = .ok () ∧
      queue.store.Noted [notice] (queue.report notice.message notice.report).state.store := by
  obtain ⟨accepted, found, others, own, taken, filed⟩ :=
    queue.report_accepted notice.message notice.report (Store.holds_of_once once)
  refine ⟨accepted, ?_⟩
  rw [filed]
  exact Store.file_noted (Store.others_of_once once own taken)

def answersTo : List Notice → MemoryQueue κ → List (Except CallFailure Unit)
  | [], _ => []
  | notice :: later, queue =>
      let reply := queue.report notice.message notice.report
      reply.answer :: answersTo later reply.state

variable [DecidableEq κ]

/-- Notices of messages that are in progress once each are all accepted. -/
theorem notices_noted {queue : MemoryQueue κ} {notices : List Notice}
    (distinct : (notices.map Notice.id).Nodup)
    (once : ∀ notice ∈ notices, queue.store.HoldsOnce notice.id) :
    answersTo notices queue = List.replicate notices.length (.ok ()) ∧
      queue.store.Noted notices (queue.afterCalls (notices.map Notice.call)).store := by
  induction notices generalizing queue with
  | nil => exact ⟨rfl, Store.noted_nothing queue.store⟩
  | cons notice later ih =>
      obtain ⟨firstOnce, laterOnce⟩ := List.forall_mem_cons.mp once
      obtain ⟨apart, laterDistinct⟩ := List.nodup_cons.mp distinct
      obtain ⟨accepted, noted⟩ := report_noted firstOnce
      have still : ∀ other ∈ later,
          (queue.report notice.message notice.report).state.store.HoldsOnce other.id := by
        intro other member
        have differs : other.id ≠ notice.id := by
          intro same
          exact apart (same ▸ List.mem_map_of_mem member)
        exact noted.still_once differs (laterOnce other member)
      obtain ⟨answers, rest⟩ := ih laterDistinct still
      refine ⟨?_, noted.trans rest⟩
      rw [answersTo, accepted, answers]
      rfl

/-- In every reachable queue the order of reports on different messages in progress is irrelevant:
in any order all of them are accepted, and they leave the same messages in the same places, in the
same numbers. If the scheduled retries have distinct times then, they also stand in the same order,
and a fetch at any time lets the same ones in, in the same order, and brings the same message. -/
theorem reports_in_any_order (calls : List (QueueCall κ)) {notices others : List Notice}
    (same : notices.Perm others) (distinct : (notices.map Notice.id).Nodup)
    (once : ∀ notice ∈ notices,
      ((empty : MemoryQueue κ).afterCalls calls).store.HoldsOnce notice.id) :
    let queue := (empty : MemoryQueue κ).afterCalls calls
    let left := (queue.afterCalls (notices.map Notice.call)).store
    let right := (queue.afterCalls (others.map Notice.call)).store
    answersTo notices queue = List.replicate notices.length (.ok ()) ∧
      answersTo others queue = List.replicate notices.length (.ok ()) ∧
      left.SameContents right ∧ left.counts = right.counts ∧
      ((left.scheduledTasks.map Prod.fst).Nodup →
        left.scheduledTasks = right.scheduledTasks ∧
          ∀ wall, (left.promoteDue wall).pending = (right.promoteDue wall).pending ∧
            (left.fetch wall).1 = (right.fetch wall).1 ∧
            (left.fetch wall).2.pending = (right.fetch wall).2.pending) := by
  intro queue left right
  have otherDistinct : (others.map Notice.id).Nodup :=
    (same.map Notice.id).nodup_iff.mp distinct
  have otherOnce : ∀ notice ∈ others, queue.store.HoldsOnce notice.id := by
    intro notice member
    exact once notice (same.mem_iff.mpr member)
  obtain ⟨answers, noted⟩ := notices_noted distinct once
  obtain ⟨otherAnswers, otherNoted⟩ := notices_noted otherDistinct otherOnce
  have alike : left.SameContents right := noted.same_contents same otherNoted
  refine ⟨answers, ?_, alike, alike.counts, ?_⟩
  · rw [same.length_eq]
    exact otherAnswers
  · intro apart
    have reachable : queue.Reachable := ⟨calls, rfl⟩
    have order := Store.same_order
      (schedule_of_reachable (reachable_after_calls reachable (notices.map Notice.call)))
      (schedule_of_reachable (reachable_after_calls reachable (others.map Notice.call)))
      alike.scheduled apart
    exact ⟨order, Store.same_fetch alike.pending order⟩

section Runs

def threeFetched : List (QueueCall Nat) :=
  [1, 2, 3].flatMap fun id =>
    [.enqueue (parcel id), .startFetch 0 patience outset, .advanceFetch 0 .told outset]

/-- The first message is put off for longer than the second one, and the third is given up. -/
def crossed : List Notice :=
  [⟨parcel 1, .retry (Timestamp.epoch.later (.ofSeconds 5))⟩,
    ⟨parcel 2, .retry (Timestamp.epoch.later (.ofSeconds 2))⟩, ⟨parcel 3, .kill⟩]

theorem crossed_reports_agree :
    (∀ notice ∈ crossed,
        ((empty : MemoryQueue Nat).afterCalls threeFetched).store.HoldsOnce notice.id) ∧
      (((empty : MemoryQueue Nat).afterCalls threeFetched).afterCalls
          (crossed.map Notice.call)).store.scheduledTasks =
        (((empty : MemoryQueue Nat).afterCalls threeFetched).afterCalls
          (crossed.reverse.map Notice.call)).store.scheduledTasks := by
  have once : ∀ notice ∈ crossed,
      ((empty : MemoryQueue Nat).afterCalls threeFetched).store.HoldsOnce notice.id := by decide
  have agree := reports_in_any_order threeFetched (List.reverse_perm crossed).symm (by decide) once
  exact ⟨once, (agree.2.2.2.2 (by decide)).1⟩

end Runs

end MemoryQueue

end TaskDispatch
