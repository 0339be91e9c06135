import TaskDispatch.Proofs.Queue.Watch

/-!
# One consumer at a time, or several

A fetch that sleeps is to be woken when there is work for it. As long as no fetch starts while
another one is under way, this is so: the main statement is that, whenever the only fetch can take
no step, nothing is pending and no retry is due. Other callers may do what they like between its
steps.

With two fetches under way it is not so. A restore makes several messages pending but rings only
once, and the fetch that is told does not tell the next one; a run is given in which a fetch sleeps
on although a message is pending.
-/

namespace TaskDispatch

set_option autoImplicit false

namespace QueueCall

variable {κ : Type}

def isStart : QueueCall κ → Bool
  | .startFetch .. => true
  | _ => false

def moment? : QueueCall κ → Option Moment
  | .advanceFetch _ _ now => some now
  | _ => none

end QueueCall

instance (earlier later : Moment) : Decidable (earlier.Leads later) :=
  inferInstanceAs (Decidable (_ ∧ _))

instance (holds : WakeCause → Prop) [DecidablePred holds] : Decidable (∀ cause, holds cause) :=
  decidable_of_iff (holds .told ∧ holds .timer)
    ⟨fun both cause => by
      cases cause with
      | told => exact both.1
      | timer => exact both.2,
    fun all => ⟨all .told, all .timer⟩⟩

namespace MemoryQueue

variable {κ : Type} {queue next : MemoryQueue κ} {caller owner : κ} {moments : List Moment}

theorem Watched.only (watched : queue.Watched owner moments) :
    ∃ deadline stage, queue.fetches = [⟨owner, deadline, stage⟩] := by
  cases watched with
  | looking fetch => exact ⟨_, _, fetch⟩
  | looked fetch => exact ⟨_, _, fetch⟩
  | told fetch => exact ⟨_, _, fetch⟩
  | asleep fetch => exact ⟨_, _, fetch⟩

theorem Watched.parties (watched : queue.Watched owner moments) :
    queue.bell.parties = [] ∨ queue.bell.parties = [owner] := by
  cases watched with
  | looking _ deserted | looked _ deserted => exact .inl (Bell.deserted_iff.mp deserted)
  | told _ nobody told =>
      right
      rw [Bell.parties, nobody, told]
      rfl
  | asleep _ waits untold =>
      right
      rw [Bell.parties, waits, untold]
      rfl

/-- At most one caller fetches, and it misses nothing. -/
def Lone (moments : List Moment) (queue : MemoryQueue κ) : Prop :=
  queue.Unwatched ∨ ∃ owner, queue.Watched owner moments

theorem Lone.mono {more : List Moment} (lone : queue.Lone moments) (fewer : moments ⊆ more) :
    queue.Lone more := by
  rcases lone with unwatched | ⟨owner, watched⟩
  · exact .inl unwatched
  · exact .inr ⟨owner, watched.mono fewer⟩

theorem lone_after_disturbance (lone : queue.Lone moments) (disturbs : queue.Disturbs next) :
    next.Lone moments := by
  rcases lone with unwatched | ⟨owner, watched⟩
  · exact .inl (unwatched_after_disturbance unwatched disturbs)
  · exact .inr ⟨owner, watched_after_disturbance watched disturbs⟩

variable [DecidableEq κ]

/-- Calls of which none starts a fetch while another one is under way. -/
def InTurns : MemoryQueue κ → List (QueueCall κ) → Prop
  | _, [] => True
  | queue, call :: later =>
      (call.isStart = true → queue.fetches = []) ∧ InTurns (queue.serve call).1 later

instance decidableInTurns : (queue : MemoryQueue κ) → (calls : List (QueueCall κ)) →
    Decidable (queue.InTurns calls)
  | _, [] => .isTrue trivial
  | queue, call :: later =>
      have := decidableInTurns (queue.serve call).1 later
      inferInstanceAs (Decidable (_ ∧ _))

def SettledAt (now : Moment) (queue : MemoryQueue κ) : Prop :=
  ∀ fetch ∈ queue.fetches, ∀ cause, queue.advanceFetch cause fetch.caller now = none

instance (now : Moment) (queue : MemoryQueue κ) : Decidable (queue.SettledAt now) :=
  inferInstanceAs (Decidable (∀ fetch ∈ queue.fetches, ∀ cause,
    queue.advanceFetch cause fetch.caller now = none))

theorem absent_advance (absent : queue.fetchOf? caller = none) (cause : WakeCause) (now : Moment) :
    queue.advanceFetch cause caller now = none := by
  simp only [advanceFetch, absent, Option.bind_eq_bind, Option.bind_none]

theorem Watched.absent (watched : queue.Watched owner moments) (differs : caller ≠ owner) :
    queue.fetchOf? caller = none := by
  obtain ⟨deadline, stage, only⟩ := watched.only
  simp [fetchOf?, only, differs.symm]

/-- Nothing is to be dropped of a caller that neither fetches nor is at the bell. -/
theorem absent_cancel (absent : queue.fetchOf? caller = none)
    (away : caller ∉ queue.bell.parties) : (queue.cancelFetch caller).1 = queue := by
  have left : (queue.bell.leave caller).1 = queue.bell := by
    simp only [Bell.parties, List.mem_append, not_or] at away
    simp only [Bell.leave, if_neg away.2, List.erase_of_not_mem away.1]
  have kept : (queue.fetches.filter fun fetch => decide (fetch.caller ≠ caller)) =
      queue.fetches := by
    rw [List.filter_eq_self]
    intro fetch member
    have passed := List.find?_eq_none.mp absent fetch member
    simpa using passed
  simp only [cancelFetch, endFetch, left, kept]

theorem unwatched_after_cancel (watched : queue.Watched owner moments) :
    (queue.cancelFetch owner).1.Unwatched := by
  obtain ⟨deadline, stage, only⟩ := watched.only
  have distinct : queue.bell.parties.Nodup := by
    rcases watched.parties with none | own
    · rw [none]
      exact List.nodup_nil
    · rw [own]
      exact List.nodup_singleton owner
  have gone : queue.bell.parties.erase owner = [] := by
    rcases watched.parties with none | own
    · rw [none]
      rfl
    · rw [own]
      exact List.erase_cons_head owner []
  constructor
  · exact only_fetch_ended only
  · have deserted := (gone ▸ Bell.leave_parties distinct owner).eq_nil
    exact Bell.deserted_iff.mpr deserted

omit [DecidableEq κ] in
theorem lone_after_start (lone : queue.Lone moments) (unused : queue.fetches = []) (caller : κ)
    (timeout : Duration) (now : Moment) :
    ((queue.startFetch caller timeout now).getD queue).Lone moments := by
  have unwatched : queue.Unwatched := by
    rcases lone with unwatched | ⟨owner, watched⟩
    · exact unwatched
    · obtain ⟨deadline, stage, only⟩ := watched.only
      rw [unused] at only
      cases only
  cases started : queue.startFetch caller timeout now with
  | none => exact .inl unwatched
  | some next => exact .inr ⟨caller, watched_after_start unwatched started⟩

theorem lone_after_advance (lone : queue.Lone moments) (caller : κ) (cause : WakeCause)
    (now : Moment) : (queue.serve (.advanceFetch caller cause now)).1.Lone (moments ++ [now]) := by
  have kept := lone.mono (List.subset_append_left moments [now])
  simp only [serve]
  cases advanced : queue.advanceFetch cause caller now with
  | none => exact kept
  | some outcome =>
      obtain ⟨next, step, woken⟩ := outcome
      rcases lone with unwatched | ⟨owner, watched⟩
      · rw [absent_advance (absent_of_unused unwatched.unused caller)] at advanced
        cases advanced
      · by_cases own : caller = owner
        · subst own
          rcases watched_after_fetch watched advanced with ⟨_, still⟩ | ⟨_, ended⟩
          · exact .inr ⟨caller, still⟩
          · exact .inl ended
        · rw [absent_advance (watched.absent own)] at advanced
          cases advanced

theorem lone_after_cancel (lone : queue.Lone moments) (caller : κ) :
    (queue.cancelFetch caller).1.Lone moments := by
  rcases lone with unwatched | ⟨owner, watched⟩
  · have away : caller ∉ queue.bell.parties := by
      rw [Bell.deserted_iff.mp unwatched.deserted]
      exact List.not_mem_nil
    rw [absent_cancel (absent_of_unused unwatched.unused caller) away]
    exact .inl unwatched
  · by_cases own : caller = owner
    · subst own
      exact .inl (unwatched_after_cancel watched)
    · have away : caller ∉ queue.bell.parties := by
        rcases watched.parties with none | alone
        · simp [none]
        · simp [alone, own]
      rw [absent_cancel (watched.absent own) away]
      exact .inr ⟨owner, watched⟩

theorem lone_after_serve (lone : queue.Lone moments) {call : QueueCall κ}
    (alone : call.isStart = true → queue.fetches = []) :
    (queue.serve call).1.Lone (moments ++ call.moment?.toList) := by
  cases call with
  | startFetch caller timeout now =>
      simp only [QueueCall.moment?, Option.toList_none, List.append_nil]
      exact lone_after_start lone (alone rfl) caller timeout now
  | advanceFetch caller cause now => exact lone_after_advance lone caller cause now
  | cancelFetch caller =>
      simp only [QueueCall.moment?, Option.toList_none, List.append_nil]
      exact lone_after_cancel lone caller
  | enqueue | report | restore =>
      simp only [QueueCall.moment?, Option.toList_none, List.append_nil]
      exact lone_after_disturbance lone (serve_disturbs queue rfl)

theorem lone_after_calls (lone : queue.Lone moments) {calls : List (QueueCall κ)}
    (turns : queue.InTurns calls) :
    (queue.afterCalls calls).Lone (moments ++ calls.filterMap QueueCall.moment?) := by
  induction calls generalizing queue moments with
  | nil =>
      rw [List.filterMap_nil, List.append_nil]
      exact lone
  | cons call later ih =>
      have after := ih (lone_after_serve lone turns.1) turns.2
      have split : (call :: later).filterMap QueueCall.moment? =
          call.moment?.toList ++ later.filterMap QueueCall.moment? := by
        cases moment : call.moment? <;> simp [moment]
      rw [split, ← List.append_assoc]
      exact after

/-- While fetches take turns, none of them sleeps over work: at a moment at which the one under way
can take no step, nothing is pending and no retry is due. Since the moments of the calls the wall
clock must not have gained on the monotonic one, by which the fetch sleeps until the next retry. -/
theorem lone_fetch_misses_nothing (calls : List (QueueCall κ)) (now : Moment)
    (turns : (empty : MemoryQueue κ).InTurns calls)
    (timely : ∀ seen ∈ calls.filterMap QueueCall.moment?, seen.Leads now)
    (settled : ((empty : MemoryQueue κ).afterCalls calls).SettledAt now)
    (waits : ((empty : MemoryQueue κ).afterCalls calls).fetches ≠ []) :
    ((empty : MemoryQueue κ).afterCalls calls).store.Exhausted now.wall := by
  have start : (empty : MemoryQueue κ).Lone [] := .inl ⟨rfl, rfl, rfl⟩
  rcases lone_after_calls start turns with unwatched | ⟨owner, watched⟩
  · exact absurd unwatched.unused waits
  · have ordered := schedule_of_reachable ⟨calls, rfl⟩
    obtain ⟨deadline, stage, only⟩ := watched.only
    have blocked := settled ⟨owner, deadline, stage⟩ (only ▸ List.mem_singleton_self _)
    exact (exhausted_when_blocked watched ordered timely blocked).2

section Runs

def parcel (id : Nat) : TaskMessage := { (default : TaskMessage) with id := .ofNat id }

def outset : Moment := ⟨0, .epoch⟩

def patience : Duration := .ofSeconds 10

/-- A message is fetched and put off for five seconds, and the next fetch goes to sleep. -/
def loneRun : List (QueueCall Nat) :=
  [.enqueue (parcel 1), .startFetch 0 patience outset, .advanceFetch 0 .told outset,
    .report (parcel 1) (.retry (Timestamp.epoch.later (.ofSeconds 5))),
    .startFetch 0 patience outset, .advanceFetch 0 .told outset, .advanceFetch 0 .told outset,
    .advanceFetch 0 .told outset, .advanceFetch 0 .told outset]

theorem lone_run_misses_nothing :
    ((empty : MemoryQueue Nat).afterCalls loneRun).fetches ≠ [] ∧
      ((empty : MemoryQueue Nat).afterCalls loneRun).store.scheduled ≠ [] ∧
      ((empty : MemoryQueue Nat).afterCalls loneRun).store.Exhausted outset.wall := by
  refine ⟨by decide, by decide, ?_⟩
  apply lone_fetch_misses_nothing loneRun outset
  case turns => decide
  case timely => decide
  case settled => decide
  case waits => decide

/-- Two messages have been fetched and are in progress, and two fetches sleep. A restore tells the
first of them, which takes one message. -/
def crowdedRun : List (QueueCall Nat) :=
  [.enqueue (parcel 1), .enqueue (parcel 2), .startFetch 0 patience outset,
    .advanceFetch 0 .told outset, .startFetch 0 patience outset, .advanceFetch 0 .told outset,
    .startFetch 0 patience outset, .advanceFetch 0 .told outset, .advanceFetch 0 .told outset,
    .advanceFetch 0 .told outset, .advanceFetch 0 .told outset, .startFetch 1 patience outset,
    .advanceFetch 1 .told outset, .advanceFetch 1 .told outset, .restore,
    .advanceFetch 0 .told outset, .advanceFetch 0 .told outset]

/-- The second fetch sleeps on, though the other message is pending. -/
theorem crowded_run_misses_work :
    (∀ seen ∈ crowdedRun.filterMap QueueCall.moment?, seen.Leads outset) ∧
      ((empty : MemoryQueue Nat).afterCalls crowdedRun).SettledAt outset ∧
      ((empty : MemoryQueue Nat).afterCalls crowdedRun).fetches ≠ [] ∧
      ((empty : MemoryQueue Nat).afterCalls crowdedRun).store.pending = [parcel 2] := by
  decide

end Runs

end MemoryQueue

end TaskDispatch
