import TaskDispatch.Proofs.Queue.Attendance
import TaskDispatch.Proofs.Queue.Intake

/-!
# A single fetch misses nothing

While one caller fetches and others only enqueue, report and restore, the fetch of that caller has
looked at all there is, or will look again: between a look that found nothing and the sleep a ring
is kept for it, and in its sleep a ring tells it. If it sleeps untold, nothing is pending, and it
sleeps no longer than until the next retry is due. Main statement: when it can take no step at some
moment, nothing is pending or due then.
-/

namespace TaskDispatch

set_option autoImplicit false

def QueueCall.isFetch {κ : Type} : QueueCall κ → Bool
  | .startFetch .. => true
  | .advanceFetch .. => true
  | .cancelFetch _ => true
  | _ => false

/-- The clock does not go back from one moment to another one, and the wall clock does not gain on
it. -/
def Moment.Leads (earlier later : Moment) : Prop :=
  earlier.clock ≤ later.clock ∧
    later.wall.nanos ≤ earlier.wall.nanos + (later.clock - earlier.clock : Nat)

namespace Store

/-- Nothing is pending, and no retry is due at a time. -/
def Exhausted (wall : Timestamp) (store : Store) : Prop :=
  store.pending = [] ∧ ∀ entry ∈ store.scheduled, wall < entry.retryAt

theorem nothing_pending_after_look {wall : Timestamp} {store : Store}
    (nothing : (store.fetch wall).1 = none) : (store.fetch wall).2.pending = [] := by
  simp only [fetch] at nothing ⊢
  split at nothing
  · assumption
  · cases nothing

/-- The next retry is the first to be due. -/
theorem undue_of_next {wall : Timestamp} {store : Store} (ordered : InOrder store.scheduled)
    (next : ∀ retryAt, store.nextRetry? = some retryAt → wall < retryAt) :
    ∀ entry ∈ store.scheduled, wall < entry.retryAt := by
  unfold nextRetry? at next
  cases schedule : store.scheduled with
  | nil => simp
  | cons first others =>
      rw [schedule] at ordered next
      have firstLater : wall < first.retryAt := next _ rfl
      intro entry member
      rcases List.mem_cons.mp member with rfl | behind
      · exact firstLater
      · have before := ScheduledTask.precedes_iff.mp
          ((List.pairwise_cons.mp ordered).1 entry behind)
        change wall.nanos < first.retryAt.nanos at firstLater
        change wall.nanos < entry.retryAt.nanos
        omega

end Store

namespace Bell

variable {κ : Type} {bell : Bell κ}

def Deserted (bell : Bell κ) : Prop := bell.waiting = [] ∧ bell.told = []

theorem deserted_iff : bell.Deserted ↔ bell.parties = [] := List.append_eq_nil_iff.symm

/-- With nobody in the line a ring is kept. -/
theorem ring_kept (nobody : bell.waiting = []) : bell.ring.1 = { bell with kept := true } := by
  simp only [ring, nobody]

end Bell

namespace MemoryQueue

variable {κ : Type}

structure Unwatched (queue : MemoryQueue κ) : Prop where
  unused : queue.fetches = []
  deserted : queue.bell.Deserted

/-- One caller fetches, and misses nothing. It has acted at the given moments. -/
inductive Watched (caller : κ) (moments : List Moment) (queue : MemoryQueue κ) : Prop where
  | looking {deadline : Nat} (fetch : queue.fetches = [⟨caller, deadline, .looking⟩])
      (deserted : queue.bell.Deserted)
  | looked {deadline : Nat} {nextRetry : Option Timestamp}
      (fetch : queue.fetches = [⟨caller, deadline, .looked nextRetry⟩])
      (deserted : queue.bell.Deserted)
      (news : queue.bell.kept = true ∨
        queue.store.pending = [] ∧ queue.store.nextRetry? = nextRetry)
  | told {deadline wakeAt : Nat} (fetch : queue.fetches = [⟨caller, deadline, .asleep wakeAt⟩])
      (nobody : queue.bell.waiting = []) (told : queue.bell.told = [caller])
  | asleep {deadline wakeAt : Nat} (fetch : queue.fetches = [⟨caller, deadline, .asleep wakeAt⟩])
      (waits : queue.bell.waiting = [caller]) (untold : queue.bell.told = [])
      (nothing : queue.store.pending = []) {seen : Moment} (before : seen ∈ moments)
      (time : wakeAt = sleepUntil seen deadline queue.store.nextRetry?)

variable {queue next : MemoryQueue κ} {caller : κ} {moments : List Moment}

theorem Watched.mono {more : List Moment} (watched : queue.Watched caller moments)
    (fewer : moments ⊆ more) : queue.Watched caller more := by
  cases watched with
  | looking fetch deserted => exact .looking fetch deserted
  | looked fetch deserted news => exact .looked fetch deserted news
  | told fetch nobody told => exact .told fetch nobody told
  | asleep fetch waits untold nothing before time =>
      exact .asleep fetch waits untold nothing (fewer before) time

section Disturbances

/-- What others do to a queue: they ring, or they leave alone what a fetch looks at. -/
structure Disturbs (queue next : MemoryQueue κ) : Prop where
  fetches : next.fetches = queue.fetches
  rung : next.bell = queue.bell.ring.1 ∨
    next.bell = queue.bell ∧ next.store.pending = queue.store.pending ∧
      next.store.scheduled = queue.store.scheduled

theorem deserted_after_disturbance (deserted : queue.bell.Deserted)
    (disturbs : queue.Disturbs next) : next.bell.Deserted := by
  rcases disturbs.rung with rung | ⟨same, _⟩
  · rw [rung, Bell.ring_kept deserted.1]
    exact deserted
  · rw [same]
    exact deserted

theorem unwatched_after_disturbance (unwatched : queue.Unwatched)
    (disturbs : queue.Disturbs next) : next.Unwatched :=
  ⟨disturbs.fetches.trans unwatched.unused,
    deserted_after_disturbance unwatched.deserted disturbs⟩

theorem watched_after_disturbance (watched : queue.Watched caller moments)
    (disturbs : queue.Disturbs next) : next.Watched caller moments := by
  have fetches := disturbs.fetches
  cases watched with
  | looking fetch deserted =>
      exact .looking (fetches.trans fetch) (deserted_after_disturbance deserted disturbs)
  | looked fetch deserted news =>
      refine .looked (fetches.trans fetch) (deserted_after_disturbance deserted disturbs) ?_
      rcases disturbs.rung with rung | ⟨same, pending, scheduled⟩
      · rw [rung, Bell.ring_kept deserted.1]
        exact .inl rfl
      · rw [same, pending, Store.nextRetry?, scheduled]
        exact news
  | told fetch nobody told =>
      rcases disturbs.rung with rung | ⟨same, _⟩
      · rw [Bell.ring_kept nobody] at rung
        exact .told (fetches.trans fetch) (by rw [rung]; exact nobody) (by rw [rung]; exact told)
      · exact .told (fetches.trans fetch) (same ▸ nobody) (same ▸ told)
  | asleep fetch waits untold nothing before time =>
      rcases disturbs.rung with rung | ⟨same, pending, scheduled⟩
      · simp only [Bell.ring, waits, untold, List.nil_append] at rung
        exact .told (fetches.trans fetch) (by rw [rung]) (by rw [rung])
      · refine .asleep (fetches.trans fetch) (same ▸ waits) (same ▸ untold)
          (pending.trans nothing) before ?_
        rw [Store.nextRetry?, scheduled]
        exact time

theorem report_disturbs (message : TaskMessage) (queue : MemoryQueue κ) (report : Report) :
    queue.Disturbs (queue.report message report).state := by
  by_cases present : queue.store.Holds message.id
  · obtain ⟨_, _, _, _, accepted⟩ := queue.store.report_present message report present
    cases report with
    | complete | kill =>
        simp only [Store.report] at accepted
        simp only [MemoryQueue.report, complete, kill, quietly, accepted]
        exact ⟨rfl, .inr ⟨rfl, rfl, rfl⟩⟩
    | retry retryAt =>
        simp only [Store.report] at accepted
        simp only [MemoryQueue.report, retry, accepted]
        exact ⟨rfl, .inl rfl⟩
  · rw [(queue.report_refused message report present).2]
    exact ⟨rfl, .inr ⟨rfl, rfl, rfl⟩⟩

theorem restore_disturbs (queue : MemoryQueue κ) : queue.Disturbs queue.restore.state := by
  by_cases orphaned : 0 < queue.store.inProgress.length
  · simp only [restore, Store.restore, orphaned, if_true]
    exact ⟨rfl, .inl rfl⟩
  · have empty : queue.store.inProgress = [] :=
      List.eq_nil_of_length_eq_zero (Nat.eq_zero_of_not_pos orphaned)
    simp only [restore, Store.restore, orphaned, if_false]
    refine ⟨rfl, .inr ⟨rfl, ?_, rfl⟩⟩
    simp only [empty, List.append_nil]

end Disturbances

theorem watched_after_start (unwatched : queue.Unwatched) {timeout : Duration}
    {now : Moment} (started : queue.startFetch caller timeout now = some next) :
    next.Watched caller moments := by
  simp only [startFetch, Option.map_eq_some_iff] at started
  obtain ⟨deadline, _, rfl⟩ := started
  have only : queue.fetches ++ [⟨caller, deadline, .looking⟩] = [⟨caller, deadline, .looking⟩] := by
    rw [unwatched.unused]
    rfl
  exact .looking only unwatched.deserted

variable [DecidableEq κ]

theorem serve_disturbs (queue : MemoryQueue κ) {call : QueueCall κ} (other : call.isFetch = false) :
    queue.Disturbs (queue.serve call).1 := by
  cases call with
  | enqueue message => exact ⟨rfl, .inl rfl⟩
  | report message report => exact report_disturbs message queue report
  | restore => exact restore_disturbs queue
  | startFetch | advanceFetch | cancelFetch => cases other

theorem unwatched_after_calls (unwatched : queue.Unwatched) {calls : List (QueueCall κ)}
    (others : ∀ call ∈ calls, call.isFetch = false) : (queue.afterCalls calls).Unwatched := by
  induction calls generalizing queue with
  | nil => exact unwatched
  | cons call calls ih =>
      obtain ⟨first, rest⟩ := List.forall_mem_cons.mp others
      exact ih (unwatched_after_disturbance unwatched (serve_disturbs queue first)) rest

theorem watched_after_calls (watched : queue.Watched caller moments)
    {calls : List (QueueCall κ)} (others : ∀ call ∈ calls, call.isFetch = false) :
    (queue.afterCalls calls).Watched caller moments := by
  induction calls generalizing queue with
  | nil => exact watched
  | cons call calls ih =>
      obtain ⟨first, rest⟩ := List.forall_mem_cons.mp others
      exact ih (watched_after_disturbance watched (serve_disturbs queue first)) rest

section Steps

variable {deadline : Nat} {stage : FetchStage} {cause : WakeCause} {now : Moment}

theorem only_fetch_found (only : queue.fetches = [⟨caller, deadline, stage⟩]) :
    queue.fetchOf? caller = some ⟨caller, deadline, stage⟩ := by
  simp [fetchOf?, only]

theorem only_fetch_moved (only : queue.fetches = [⟨caller, deadline, stage⟩])
    (later : FetchStage) : (queue.setStage caller later).fetches = [⟨caller, deadline, later⟩] := by
  simp [setStage, only]

theorem only_fetch_ended (only : queue.fetches = [⟨caller, deadline, stage⟩]) :
    (queue.endFetch caller).fetches = [] := by
  simp [endFetch, only]

theorem watched_after_look (only : queue.fetches = [⟨caller, deadline, stage⟩])
    (deserted : queue.bell.Deserted) (now : Moment) :
    ((queue.look caller now).2 = .moved ∧ (queue.look caller now).1.Watched caller moments) ∨
      ((∃ answer, (queue.look caller now).2 = .returned answer) ∧
        (queue.look caller now).1.Unwatched) := by
  simp only [look]
  cases found : (queue.store.fetch now.wall).1 with
  | some message => exact .inr ⟨⟨_, rfl⟩, only_fetch_ended only, deserted⟩
  | none =>
      have nothing := Store.nothing_pending_after_look found
      exact .inl ⟨rfl, .looked (only_fetch_moved only _) deserted (.inr ⟨nothing, rfl⟩)⟩

theorem watched_after_settle {nextRetry : Option Timestamp}
    (only : queue.fetches = [⟨caller, deadline, stage⟩]) (deserted : queue.bell.Deserted)
    (news : queue.bell.kept = true ∨
      queue.store.pending = [] ∧ queue.store.nextRetry? = nextRetry)
    (cause : WakeCause) (present : now ∈ moments) :
    ((queue.settle cause caller deadline nextRetry now).2 = .moved ∧
        (queue.settle cause caller deadline nextRetry now).1.Watched caller moments) ∨
      ((∃ answer, (queue.settle cause caller deadline nextRetry now).2 = .returned answer) ∧
        (queue.settle cause caller deadline nextRetry now).1.Unwatched) := by
  simp only [settle]
  split
  · exact .inr ⟨⟨_, rfl⟩, only_fetch_ended only, deserted⟩
  · left
    split
    · exact ⟨rfl, .looking (only_fetch_moved only _) deserted⟩
    · split
      · exact ⟨rfl, .looking (only_fetch_moved only _) deserted⟩
      case isFalse silent =>
        obtain ⟨nothing, awaited⟩ := news.resolve_left silent
        refine ⟨rfl, .asleep (only_fetch_moved only _) ?_ deserted.2 nothing present ?_⟩
        · simp [setStage, Bell.join, deserted.1]
        · rw [← awaited]
          rfl

theorem watched_after_wake {wakeAt : Nat} {woken : List κ}
    (only : queue.fetches = [⟨caller, deadline, stage⟩]) (alone : queue.bell.parties = [caller])
    (woke : queue.wake cause caller wakeAt now = some (next, woken)) :
    next.Watched caller moments := by
  have distinct : queue.bell.parties.Nodup := by
    rw [alone]
    exact List.nodup_singleton caller
  have gone : queue.bell.parties.erase caller = [] := by
    rw [alone]
    exact List.erase_cons_head caller []
  cases cause with
  | told =>
      simp only [wake, Option.ite_none_right_eq_some, Option.some.injEq, Prod.mk.injEq] at woke
      obtain ⟨told, rfl, _⟩ := woke
      have deserted := (Bell.resume_parties distinct told).trans gone
      exact .looking (only_fetch_moved only _) (Bell.deserted_iff.mpr deserted)
  | timer =>
      simp only [wake, Option.ite_none_right_eq_some, Option.some.injEq, Prod.mk.injEq] at woke
      obtain ⟨_, rfl, _⟩ := woke
      have deserted := (gone ▸ Bell.leave_parties distinct caller).eq_nil
      exact .looking (only_fetch_moved only _) (Bell.deserted_iff.mpr deserted)

/-- A step of the fetch leaves it watching, or ends it. -/
theorem watched_after_fetch {step : FetchStep} {woken : List κ}
    (watched : queue.Watched caller moments)
    (advanced : queue.advanceFetch cause caller now = some (next, step, woken)) :
    (step = .moved ∧ next.Watched caller (moments ++ [now])) ∨
      ((∃ answer, step = .returned answer) ∧ next.Unwatched) := by
  have later := watched.mono (List.subset_append_left moments [now])
  have present : now ∈ moments ++ [now] := List.mem_append_right _ (List.mem_singleton_self now)
  cases later with
  | looking only deserted =>
      simp only [advanceFetch, only_fetch_found only, Option.bind_eq_bind, Option.bind_some,
        Option.some.injEq, Prod.mk.injEq] at advanced
      obtain ⟨rfl, rfl, _⟩ := advanced
      exact watched_after_look only deserted now
  | looked only deserted news =>
      simp only [advanceFetch, only_fetch_found only, Option.bind_eq_bind, Option.bind_some,
        Option.some.injEq, Prod.mk.injEq] at advanced
      obtain ⟨rfl, rfl, _⟩ := advanced
      exact watched_after_settle only deserted news cause present
  | told only nobody told =>
      simp only [advanceFetch, only_fetch_found only, Option.bind_eq_bind, Option.bind_some,
        Option.bind_eq_some_iff, Prod.exists, Option.some.injEq, Prod.mk.injEq] at advanced
      obtain ⟨_, _, woke, rfl, rfl, _⟩ := advanced
      have alone : queue.bell.parties = [caller] := by rw [Bell.parties, nobody, told]; rfl
      exact .inl ⟨rfl, watched_after_wake only alone woke⟩
  | asleep only waits untold =>
      simp only [advanceFetch, only_fetch_found only, Option.bind_eq_bind, Option.bind_some,
        Option.bind_eq_some_iff, Prod.exists, Option.some.injEq, Prod.mk.injEq] at advanced
      obtain ⟨_, _, woke, rfl, rfl, _⟩ := advanced
      have alone : queue.bell.parties = [caller] := by rw [Bell.parties, waits, untold]; rfl
      exact .inl ⟨rfl, watched_after_wake only alone woke⟩

/-- A sleep that is not over at a moment ends before a retry is due that it was to end for. -/
theorem undue_in_sleep {seen : Moment} (lead : seen.Leads now) {retryAt : Timestamp}
    (unended : now.clock < sleepUntil seen deadline (some retryAt)) : now.wall < retryAt := by
  have wall := lead.2
  have clock := lead.1
  simp only [sleepUntil, Timestamp.nanosUntil] at unended
  change now.wall.nanos < retryAt.nanos
  omega

/-- A fetch that can take no step sleeps on, and there is nothing for it. -/
theorem exhausted_when_blocked (watched : queue.Watched caller moments)
    (ordered : Store.InOrder queue.store.scheduled) (lead : ∀ seen ∈ moments, seen.Leads now)
    (blocked : ∀ cause, queue.advanceFetch cause caller now = none) :
    (∃ wakeAt, queue.wakeTime caller = some wakeAt ∧ now.clock < wakeAt) ∧
      queue.store.Exhausted now.wall := by
  cases watched with
  | looking only =>
      have stuck := blocked .told
      simp [advanceFetch, only_fetch_found only] at stuck
  | looked only =>
      have stuck := blocked .told
      simp [advanceFetch, only_fetch_found only] at stuck
  | told only nobody told =>
      have stuck := blocked .told
      simp [advanceFetch, only_fetch_found only, wake, told] at stuck
  | @asleep deadline wakeAt only waits untold nothing seen before time =>
      have stuck := blocked .timer
      have unended : now.clock < wakeAt := by
        by_contra past
        simp [advanceFetch, only_fetch_found only, wake, Nat.le_of_not_lt past] at stuck
      refine ⟨⟨wakeAt, ?_, unended⟩, nothing, Store.undue_of_next ordered ?_⟩
      · simp [wakeTime, only_fetch_found only]
      · intro retryAt nextRetry
        rw [time, nextRetry] at unended
        exact undue_in_sleep (lead seen before) unended

end Steps

end MemoryQueue

end TaskDispatch
