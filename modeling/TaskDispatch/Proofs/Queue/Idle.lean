import TaskDispatch.Proofs.Queue.Watch

/-!
# Fetches and a queue with nothing to fetch

A step of a fetch moves it to another stage or ends it, and leaves the fetches of other callers
alone. A fetch never sleeps beyond its deadline. Where nothing is pending, in progress or scheduled,
a step of a fetch leaves the store as it is and brings no message.
-/

namespace TaskDispatch

set_option autoImplicit false

namespace Store

structure Drained (store : Store) : Prop where
  none_pending : store.pending = []
  none_in_progress : store.inProgress = []
  none_scheduled : store.scheduled = []

theorem drained_iff_settled (store : Store) :
    store.counts.isSettled = true ↔ store.Drained := by
  simp only [counts, QueueCounts.isSettled, Bool.and_eq_true, decide_eq_true_eq,
    List.length_eq_zero_iff]
  constructor
  · rintro ⟨⟨pending, inProgress⟩, scheduled⟩
    exact ⟨pending, inProgress, scheduled⟩
  · rintro ⟨pending, inProgress, scheduled⟩
    exact ⟨⟨pending, inProgress⟩, scheduled⟩

variable {store : Store}

/-- A look that finds nothing changes nothing. -/
theorem fetch_of_nothing {wall : Timestamp}
    (nothing : (store.promoteDue wall).pending = []) :
    store.fetch wall = (none, store) := by
  obtain ⟨nonePending, noneDue⟩ := List.append_eq_nil_iff.mp nothing
  have undue : store.scheduled.takeWhile (isDue wall) = [] := List.map_eq_nil_iff.mp noneDue
  have kept : store.scheduled.dropWhile (isDue wall) = store.scheduled := by
    have whole := List.takeWhile_append_dropWhile (p := isDue wall) (l := store.scheduled)
    rwa [undue, List.nil_append] at whole
  have same : store.promoteDue wall = store := by
    simp only [promoteDue, undue, kept, List.map_nil, List.append_nil]
  rw [same] at nothing
  simp only [fetch, same, nothing]

theorem fetch_of_drained (drained : store.Drained) (wall : Timestamp) :
    store.fetch wall = (none, store) := by
  apply fetch_of_nothing
  simp only [promoteDue, drained.none_pending, drained.none_scheduled, List.takeWhile_nil,
    List.map_nil, List.append_nil]

theorem restore_of_drained (drained : store.Drained) : store.restore = (0, store) := by
  simp only [restore, drained.none_in_progress, List.length_nil, List.append_nil]
  rw [← drained.none_in_progress]

end Store

/-- If a fetch sleeps, then not beyond its deadline. -/
def Fetch.Punctual {κ : Type} (fetch : Fetch κ) : Prop :=
  ∀ wakeAt, fetch.stage = .asleep wakeAt → wakeAt ≤ fetch.deadline

namespace MemoryQueue

variable {κ : Type} [DecidableEq κ] {queue next : MemoryQueue κ} {caller other : κ}
  {cause : WakeCause} {now : Moment} {step : FetchStep} {woken : List κ}

omit [DecidableEq κ] in
theorem restore_of_drained (drained : queue.store.Drained) :
    queue.restore.answer = .ok 0 ∧ queue.restore.state = queue := by
  simp [restore, Store.restore_of_drained drained]

/-- Where there is nothing to fetch, a fetch goes on or ends with nothing. -/
theorem fetch_step_of_drained (drained : queue.store.Drained)
    (advanced : queue.advanceFetch cause caller now = some (next, step, woken)) :
    next.store = queue.store ∧ (step = .moved ∨ step = .returned (.ok none)) := by
  rcases store_after_fetch_step advanced with ⟨message, _, taken⟩ | ⟨fruitless, kept | looked⟩
  · rw [Store.fetch_of_drained drained] at taken
    cases taken
  · exact ⟨kept, fruitless⟩
  · rw [Store.fetch_of_drained drained] at looked
    exact ⟨(Prod.mk.inj looked).2.symm, fruitless⟩

inductive FetchChange (caller : κ) (queue next : MemoryQueue κ) : FetchStep → Prop where
  | moved {fetch : Fetch κ} {stage : FetchStage} (found : queue.fetchOf? caller = some fetch)
      (punctual : ({ fetch with stage := stage } : Fetch κ).Punctual)
      (fetches : next.fetches = (queue.setStage caller stage).fetches) :
      FetchChange caller queue next .moved
  | ended {answer : Except CallFailure (Option TaskMessage)}
      (fetches : next.fetches = (queue.endFetch caller).fetches) :
      FetchChange caller queue next (.returned answer)

theorem sleep_within_deadline (now : Moment) (deadline : Nat) (nextRetry : Option Timestamp) :
    sleepUntil now deadline nextRetry ≤ deadline := by
  cases nextRetry with
  | none => exact Nat.le_refl deadline
  | some retryAt => exact Nat.min_le_left _ _

theorem fetch_change (advanced : queue.advanceFetch cause caller now = some (next, step, woken)) :
    FetchChange caller queue next step := by
  simp only [advanceFetch, Option.bind_eq_bind, Option.bind_eq_some_iff] at advanced
  obtain ⟨fetch, found, advanced⟩ := advanced
  -- only a sleep can last too long
  have awake {stage : FetchStage} (different : ∀ wakeAt, stage ≠ .asleep wakeAt) :
      ({ fetch with stage := stage } : Fetch κ).Punctual :=
    fun wakeAt asleep => absurd asleep (different wakeAt)
  cases stage : fetch.stage with
  | looking =>
      simp only [stage, Option.some.injEq, Prod.mk.injEq] at advanced
      obtain ⟨rfl, rfl, _⟩ := advanced
      simp only [look]
      split
      · exact .ended rfl
      · exact .moved found (awake (by simp)) rfl
  | looked nextRetry =>
      simp only [stage, Option.some.injEq, Prod.mk.injEq] at advanced
      obtain ⟨rfl, rfl, _⟩ := advanced
      simp only [settle]
      split
      · exact .ended rfl
      · split
        · exact .moved found (awake (by simp)) rfl
        · split
          · exact .moved found (awake (by simp)) rfl
          · have punctual : ({ fetch with
                stage := .asleep (sleepUntil now fetch.deadline nextRetry) } :
                  Fetch κ).Punctual := by
              rintro wakeAt ⟨rfl⟩
              exact sleep_within_deadline now fetch.deadline nextRetry
            exact .moved found punctual rfl
  | asleep wakeAt =>
      simp only [stage, Option.bind_eq_some_iff, Prod.exists, Option.some.injEq,
        Prod.mk.injEq] at advanced
      obtain ⟨_, _, woke, rfl, rfl, _⟩ := advanced
      cases cause with
      | told =>
          simp only [wake, Option.ite_none_right_eq_some, Option.some.injEq, Prod.mk.injEq] at woke
          obtain ⟨_, rfl, _⟩ := woke
          exact .moved found (awake (by simp)) rfl
      | timer =>
          simp only [wake, Option.ite_none_right_eq_some, Option.some.injEq, Prod.mk.injEq] at woke
          obtain ⟨_, rfl, _⟩ := woke
          exact .moved found (awake (by simp)) rfl

def Fetching (caller : κ) (queue : MemoryQueue κ) : Prop :=
  ∃ fetch, queue.fetchOf? caller = some fetch ∧ fetch.Punctual

theorem found_of_same_fetches (same : next.fetches = queue.fetches) (caller : κ) :
    next.fetchOf? caller = queue.fetchOf? caller := by
  rw [fetchOf?, fetchOf?, same]

theorem found_after_move {fetch : Fetch κ} (found : queue.fetchOf? caller = some fetch)
    {stage : FetchStage} (fetches : next.fetches = (queue.setStage caller stage).fetches) :
    next.fetchOf? caller = some { fetch with stage := stage } :=
  (found_of_same_fetches fetches caller).trans (found_after_stage found stage)

theorem fetching_after_move (change : FetchChange caller queue next .moved) :
    next.Fetching caller := by
  cases change with
  | @moved fetch stage found punctual fetches =>
      exact ⟨{ fetch with stage := stage }, found_after_move found fetches, punctual⟩

theorem absent_after_end {answer : Except CallFailure (Option TaskMessage)}
    (change : FetchChange caller queue next (.returned answer)) : next.fetchOf? caller = none := by
  cases change with
  | ended fetches =>
      rw [fetchOf?, fetches, List.find?_eq_none]
      intro fetch member
      simpa using (List.mem_filter.mp member).2

theorem found_elsewhere_after_change (change : FetchChange caller queue next step)
    (differs : other ≠ caller) : next.fetchOf? other = queue.fetchOf? other := by
  cases change with
  | @moved fetch stage found punctual fetches =>
      calc
        next.fetchOf? other = (queue.setStage caller stage).fetchOf? other :=
          found_of_same_fetches fetches other
        _ = queue.fetchOf? other := found_elsewhere_after_stage queue differs stage
  | ended fetches =>
      calc
        next.fetchOf? other = (queue.endFetch caller).fetchOf? other :=
          found_of_same_fetches fetches other
        _ = queue.fetchOf? other := found_elsewhere_after_end queue differs

section Start

variable {timeout : Duration}

theorem fetching_after_start (absent : queue.fetchOf? caller = none)
    (started : queue.startFetch caller timeout now = some next) : next.Fetching caller := by
  simp only [startFetch, Option.map_eq_some_iff] at started
  obtain ⟨deadline, _, rfl⟩ := started
  refine ⟨⟨caller, deadline, .looking⟩, ?_, ?_⟩
  · rw [fetchOf?] at absent
    simp [fetchOf?, List.find?_append, absent]
  · intro wakeAt asleep
    cases asleep

theorem found_elsewhere_after_start (differs : other ≠ caller)
    (started : queue.startFetch caller timeout now = some next) :
    next.fetchOf? other = queue.fetchOf? other := by
  simp only [startFetch, Option.map_eq_some_iff] at started
  obtain ⟨deadline, _, rfl⟩ := started
  simp [fetchOf?, List.find?_append, differs.symm]

end Start

section Overdue

variable {fetch : Fetch κ}

/-- At its deadline a fetch that has looked gives up. -/
theorem overdue_after_look (found : queue.fetchOf? caller = some fetch)
    {nextRetry : Option Timestamp} (looked : fetch.stage = .looked nextRetry)
    (overdue : fetch.deadline ≤ now.clock) :
    ∃ next, queue.advanceFetch cause caller now = some (next, .returned (.ok none), []) := by
  simp [advanceFetch, found, looked, settle, overdue]

/-- A look at a store with nothing to fetch. -/
theorem looked_in_vain (drained : queue.store.Drained) (found : queue.fetchOf? caller = some fetch)
    (looking : fetch.stage = .looking) :
    ∃ next nextRetry, queue.advanceFetch cause caller now = some (next, .moved, []) ∧
      next.fetchOf? caller = some { fetch with stage := .looked nextRetry } := by
  refine ⟨queue.setStage caller (.looked queue.store.nextRetry?), _, ?_,
    found_after_stage found _⟩
  simp [advanceFetch, found, looking, look, Store.fetch_of_drained drained]

/-- A fetch whose time has come looks again. -/
theorem woken_by_timer (found : queue.fetchOf? caller = some fetch) {wakeAt : Nat}
    (asleep : fetch.stage = .asleep wakeAt) (past : wakeAt ≤ now.clock) :
    ∃ next woken, queue.advanceFetch .timer caller now = some (next, .moved, woken) ∧
      next.fetchOf? caller = some { fetch with stage := .looking } ∧
        next.store = queue.store := by
  refine ⟨({ queue with bell := (queue.bell.leave caller).1 } : MemoryQueue κ).setStage caller
    .looking, (queue.bell.leave caller).2, ?_, found_after_stage found .looking, rfl⟩
  simp [advanceFetch, found, asleep, wake, past]

end Overdue

end MemoryQueue

end TaskDispatch
