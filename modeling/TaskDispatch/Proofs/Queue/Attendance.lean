import Mathlib.Data.List.Nodup
import TaskDispatch.Proofs.Entries
import TaskDispatch.Proofs.Queue.Annals

/-!
# Who waits at the bell

A party that waits at the bell of a queue, or has been told and not yet resumed, is there once and
has a fetch that sleeps. Every call keeps it so, whoever makes it. So without a fetch nobody is at
the bell.
-/

namespace TaskDispatch

set_option autoImplicit false

namespace Bell

variable {κ : Type}

def parties (bell : Bell κ) : List κ := bell.waiting ++ bell.told

theorem ring_parties (bell : Bell κ) : bell.ring.1.parties.Perm bell.parties := by
  unfold parties ring
  cases bell.waiting with
  | nil => exact List.Perm.refl _
  | cons first others =>
      simp only
      rw [← List.append_assoc]
      exact List.perm_append_singleton first (others ++ bell.told)

theorem join_parties (party : κ) (bell : Bell κ) :
    (bell.join party).parties.Perm (party :: bell.parties) := by
  unfold parties join
  rw [List.append_assoc]
  exact List.perm_middle

variable [DecidableEq κ]

theorem resume_parties {party : κ} {bell : Bell κ} (distinct : bell.parties.Nodup)
    (told : party ∈ bell.told) : (bell.resume party).parties = bell.parties.erase party := by
  have unwaiting : party ∉ bell.waiting := fun waits =>
    List.disjoint_of_nodup_append distinct waits told
  exact (List.erase_append_right bell.told unwaiting).symm

/-- Whoever leaves is not there any more, and nobody has come. -/
theorem leave_parties {bell : Bell κ} (distinct : bell.parties.Nodup) (party : κ) :
    (bell.leave party).1.parties.Perm (bell.parties.erase party) := by
  unfold leave
  by_cases told : party ∈ bell.told
  · rw [if_pos told, ← resume_parties distinct told]
    exact ring_parties _
  · rw [if_neg told]
    unfold parties
    by_cases waits : party ∈ bell.waiting
    · rw [List.erase_append_left bell.told waits]
    · rw [List.erase_append_right bell.told waits, List.erase_of_not_mem waits,
        List.erase_of_not_mem told]

end Bell

namespace MemoryQueue

variable {κ : Type} [DecidableEq κ] {queue : MemoryQueue κ} {caller other : κ}

theorem absent_of_unused (unused : queue.fetches = []) (caller : κ) :
    queue.fetchOf? caller = none := by
  rw [fetchOf?, unused]
  rfl

theorem found_after_stage {fetch : Fetch κ} (found : queue.fetchOf? caller = some fetch)
    (stage : FetchStage) :
    (queue.setStage caller stage).fetchOf? caller = some { fetch with stage := stage } := by
  have updated : (queue.setStage caller stage).fetchOf? caller =
      (queue.fetchOf? caller).map fun fetch => { fetch with stage := stage } :=
    find_after_update Fetch.caller queue.fetches fun _ own => own
  rw [updated, found]
  rfl

theorem found_elsewhere_after_stage (queue : MemoryQueue κ) (differs : other ≠ caller)
    (stage : FetchStage) : (queue.setStage caller stage).fetchOf? other = queue.fetchOf? other :=
  find_elsewhere_after_update Fetch.caller queue.fetches (fun _ own => own) differs

theorem found_elsewhere_after_end (queue : MemoryQueue κ) (differs : other ≠ caller) :
    (queue.endFetch caller).fetchOf? other = queue.fetchOf? other :=
  find_elsewhere_after_removal Fetch.caller queue.fetches differs

theorem wake_time_elsewhere_after_stage (queue : MemoryQueue κ) (differs : other ≠ caller)
    (stage : FetchStage) : (queue.setStage caller stage).wakeTime other = queue.wakeTime other := by
  unfold wakeTime
  rw [found_elsewhere_after_stage queue differs]

theorem wake_time_elsewhere_after_end (queue : MemoryQueue κ) (differs : other ≠ caller) :
    (queue.endFetch caller).wakeTime other = queue.wakeTime other := by
  unfold wakeTime
  rw [found_elsewhere_after_end queue differs]

theorem wake_time_after_sleep {fetch : Fetch κ} (found : queue.fetchOf? caller = some fetch)
    (wakeAt : Nat) : (queue.setStage caller (.asleep wakeAt)).wakeTime caller = some wakeAt := by
  unfold wakeTime
  rw [found_after_stage found]
  rfl

/-- The parties at the bell are distinct and sleep in a fetch. -/
structure Attended (queue : MemoryQueue κ) : Prop where
  distinct : queue.bell.parties.Nodup
  asleep : ∀ party ∈ queue.bell.parties, queue.wakeTime party ≠ none

theorem Attended.absent (attended : queue.Attended) (awake : queue.wakeTime caller = none) :
    caller ∉ queue.bell.parties := fun present => attended.asleep caller present awake

theorem attended_after_bell (attended : queue.Attended) (bell : Bell κ)
    (fewer : bell.parties.Sublist queue.bell.parties ∨ bell.parties.Perm queue.bell.parties) :
    ({ queue with bell := bell } : MemoryQueue κ).Attended := by
  constructor
  case distinct =>
    rcases fewer with sublist | perm
    · exact attended.distinct.sublist sublist
    · exact perm.nodup_iff.mpr attended.distinct
  case asleep =>
    intro party present
    apply attended.asleep party
    rcases fewer with sublist | perm
    · exact sublist.subset present
    · exact perm.mem_iff.mp present

theorem attended_after_ring (attended : queue.Attended) : queue.ring.1.Attended :=
  attended_after_bell attended _ (.inr (Bell.ring_parties _))

theorem attended_after_stage (attended : queue.Attended) (absent : caller ∉ queue.bell.parties)
    (stage : FetchStage) : (queue.setStage caller stage).Attended := by
  refine ⟨attended.distinct, fun party present => ?_⟩
  have differs : party ≠ caller := fun same => absent (same ▸ present)
  rw [wake_time_elsewhere_after_stage queue differs]
  exact attended.asleep party present

theorem attended_after_end (attended : queue.Attended) (absent : caller ∉ queue.bell.parties) :
    (queue.endFetch caller).Attended := by
  refine ⟨attended.distinct, fun party present => ?_⟩
  have differs : party ≠ caller := fun same => absent (same ▸ present)
  rw [wake_time_elsewhere_after_end queue differs]
  exact attended.asleep party present

theorem attended_after_sleep (attended : queue.Attended) (absent : caller ∉ queue.bell.parties)
    {fetch : Fetch κ} (found : queue.fetchOf? caller = some fetch) (wakeAt : Nat) :
    (({ queue with bell := queue.bell.join caller } : MemoryQueue κ).setStage caller
      (.asleep wakeAt)).Attended := by
  have joined := queue.bell.join_parties caller
  constructor
  case distinct =>
    exact joined.nodup_iff.mpr (List.nodup_cons.mpr ⟨absent, attended.distinct⟩)
  case asleep =>
    intro party present
    rcases List.mem_cons.mp (joined.mem_iff.mp present) with rfl | before
    · have slept : (({ queue with bell := queue.bell.join party } : MemoryQueue κ).setStage party
          (.asleep wakeAt)).wakeTime party = some wakeAt := wake_time_after_sleep found wakeAt
      rw [slept]
      exact Option.some_ne_none _
    · have differs : party ≠ caller := fun same => absent (same ▸ before)
      rw [wake_time_elsewhere_after_stage _ differs]
      exact attended.asleep party before

/-- A party that has left the bell may go to any stage, or end its fetch. -/
theorem attended_after_leave (attended : queue.Attended) (caller : κ) :
    ({ queue with bell := (queue.bell.leave caller).1 } : MemoryQueue κ).Attended ∧
      caller ∉ (queue.bell.leave caller).1.parties := by
  have left := Bell.leave_parties attended.distinct caller
  constructor
  · constructor
    case distinct => exact left.nodup_iff.mpr (attended.distinct.erase caller)
    case asleep =>
      intro party present
      exact attended.asleep party (List.mem_of_mem_erase (left.mem_iff.mp present))
  · intro present
    exact attended.distinct.not_mem_erase (left.mem_iff.mp present)

theorem attended_after_look (attended : queue.Attended) (absent : caller ∉ queue.bell.parties)
    (now : Moment) : (queue.look caller now).1.Attended := by
  have seen : ({ queue with store := (queue.store.fetch now.wall).2 } : MemoryQueue κ).Attended :=
    ⟨attended.distinct, attended.asleep⟩
  simp only [look]
  split
  · exact attended_after_end seen absent
  · exact attended_after_stage seen absent _

theorem attended_after_settle (attended : queue.Attended) (absent : caller ∉ queue.bell.parties)
    {fetch : Fetch κ} (found : queue.fetchOf? caller = some fetch) (cause : WakeCause)
    (deadline : Nat) (nextRetry : Option Timestamp) (now : Moment) :
    (queue.settle cause caller deadline nextRetry now).1.Attended := by
  simp only [settle]
  split
  · exact attended_after_end attended absent
  · split
    · exact attended_after_stage attended absent _
    · split
      · have silent : ({ queue with bell := queue.bell.takeKept } : MemoryQueue κ).Attended :=
          ⟨attended.distinct, attended.asleep⟩
        exact attended_after_stage silent absent _
      · exact attended_after_sleep attended absent found _

theorem attended_after_wake (attended : queue.Attended) {cause : WakeCause} {wakeAt : Nat}
    {now : Moment} {next : MemoryQueue κ} {woken : List κ}
    (woke : queue.wake cause caller wakeAt now = some (next, woken)) : next.Attended := by
  cases cause with
  | told =>
      simp only [wake, Option.ite_none_right_eq_some, Option.some.injEq, Prod.mk.injEq] at woke
      obtain ⟨told, rfl, _⟩ := woke
      have resumed := Bell.resume_parties attended.distinct told
      have still := attended_after_bell attended (queue.bell.resume caller)
        (.inl (resumed ▸ List.erase_sublist))
      apply attended_after_stage still
      rw [resumed]
      exact attended.distinct.not_mem_erase
  | timer =>
      simp only [wake, Option.ite_none_right_eq_some, Option.some.injEq, Prod.mk.injEq] at woke
      obtain ⟨_, rfl, _⟩ := woke
      obtain ⟨still, absent⟩ := attended_after_leave attended caller
      exact attended_after_stage still absent _

theorem attended_after_fetch (attended : queue.Attended) {cause : WakeCause} {now : Moment}
    {next : MemoryQueue κ} {step : FetchStep} {woken : List κ}
    (advanced : queue.advanceFetch cause caller now = some (next, step, woken)) :
    next.Attended := by
  simp only [advanceFetch, Option.bind_eq_bind, Option.bind_eq_some_iff] at advanced
  obtain ⟨fetch, found, advanced⟩ := advanced
  have absent (awake : ∀ wakeAt, fetch.stage ≠ .asleep wakeAt) :
      caller ∉ queue.bell.parties := by
    apply attended.absent
    simp only [wakeTime, found, Option.bind_eq_bind, Option.bind_some]
  cases stage : fetch.stage with
  | looking =>
      simp only [stage, Option.some.injEq, Prod.mk.injEq] at advanced
      rw [← advanced.1]
      exact attended_after_look attended (absent (by simp [stage])) now
  | looked nextRetry =>
      simp only [stage, Option.some.injEq, Prod.mk.injEq] at advanced
      rw [← advanced.1]
      exact attended_after_settle attended (absent (by simp [stage])) found _ _ _ _
  | asleep wakeAt =>
      simp only [stage, Option.bind_eq_some_iff, Prod.exists, Option.some.injEq,
        Prod.mk.injEq] at advanced
      obtain ⟨_, _, woke, rfl, _⟩ := advanced
      exact attended_after_wake attended woke

theorem attended_after_start (attended : queue.Attended) (fetch : Fetch κ) :
    ({ queue with fetches := queue.fetches ++ [fetch] } : MemoryQueue κ).Attended := by
  refine ⟨attended.distinct, fun party present => ?_⟩
  have asleep := attended.asleep party present
  -- Only a fetch that is there already is found, and it is found before the new one.
  unfold wakeTime fetchOf? at asleep ⊢
  rw [List.find?_append]
  cases found : queue.fetches.find? (fun fetch => decide (fetch.caller = party)) with
  | none =>
      rw [found] at asleep
      exact absurd rfl asleep
  | some known =>
      rw [found] at asleep
      exact asleep

theorem attended_after_report (attended : queue.Attended) (message : TaskMessage)
    (report : Report) : (queue.report message report).state.Attended := by
  have quiet (result : Except BackendError Store) : (queue.quietly result).state.Attended := by
    cases result with
    | ok store => exact ⟨attended.distinct, attended.asleep⟩
    | error error => exact attended
  cases report with
  | complete => exact quiet _
  | kill => exact quiet _
  | retry retryAt =>
      simp only [MemoryQueue.report, retry]
      cases queue.store.retry message retryAt with
      | ok store =>
          have stored : ({ queue with store := store } : MemoryQueue κ).Attended :=
            ⟨attended.distinct, attended.asleep⟩
          exact attended_after_ring stored
      | error error => exact attended

theorem attended_after_restore (attended : queue.Attended) : queue.restore.state.Attended := by
  have restored : ({ queue with store := queue.store.restore.2 } : MemoryQueue κ).Attended :=
    ⟨attended.distinct, attended.asleep⟩
  simp only [restore]
  split
  · exact attended_after_ring restored
  · exact restored

theorem attended_after_serve (attended : queue.Attended) (call : QueueCall κ) :
    (queue.serve call).1.Attended := by
  cases call with
  | enqueue message =>
      have stored : ({ queue with store := queue.store.enqueue message } :
          MemoryQueue κ).Attended := ⟨attended.distinct, attended.asleep⟩
      exact attended_after_ring stored
  | startFetch caller timeout now =>
      simp only [serve, startFetch]
      cases now.deadline? timeout with
      | none => exact attended
      | some deadline => exact attended_after_start attended _
  | advanceFetch caller cause now =>
      simp only [serve]
      cases advanced : queue.advanceFetch cause caller now with
      | none => exact attended
      | some outcome =>
          obtain ⟨next, step, woken⟩ := outcome
          exact attended_after_fetch attended advanced
  | cancelFetch caller =>
      obtain ⟨still, absent⟩ := attended_after_leave attended caller
      exact attended_after_end still absent
  | report message report => exact attended_after_report attended message report
  | restore => exact attended_after_restore attended

theorem attended_after_calls (attended : queue.Attended) (calls : List (QueueCall κ)) :
    (queue.afterCalls calls).Attended := by
  induction calls generalizing queue with
  | nil => exact attended
  | cons call calls ih => exact ih (attended_after_serve attended call)

theorem empty_attended : (empty : MemoryQueue κ).Attended where
  distinct := List.nodup_nil
  asleep := fun _ present => absurd present List.not_mem_nil

/-- Without a fetch nobody is at the bell. -/
theorem nobody_at_bell (reachable : queue.Reachable) (unused : queue.fetches = []) :
    queue.bell.parties = [] := by
  have attended : queue.Attended := by
    obtain ⟨calls, rfl⟩ := reachable
    exact attended_after_calls empty_attended calls
  rw [List.eq_nil_iff_forall_not_mem]
  intro party
  apply attended.absent
  unfold wakeTime fetchOf?
  rw [unused]
  rfl

end MemoryQueue

end TaskDispatch
