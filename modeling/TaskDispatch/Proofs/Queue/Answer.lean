import TaskDispatch.Proofs.Queue.Consumers
import TaskDispatch.Proofs.Queue.Idle

/-!
# What the answer of a fetch means

One fetch is followed from its start to its answer, among any calls of anybody else. Until it
answers, its own steps leave the store as it is. It sleeps only after a look that found nothing, and
not beyond its deadline nor the time of any retry that was scheduled at that look. It gives up only
at its deadline, right after a look at which nothing was pending or due, and it brings a message
only by taking it from the front of the pending ones, in the step of the look itself.
-/

namespace TaskDispatch

set_option autoImplicit false

namespace QueueCall

variable {κ : Type} [DecidableEq κ]

def concerns (caller : κ) : QueueCall κ → Bool
  | .startFetch other .. => other = caller
  | .advanceFetch other .. => other = caller
  | .cancelFetch other => other = caller
  | _ => false

/-- The call begins another fetch of a caller, or drops the one under way. -/
def interferes (caller : κ) : QueueCall κ → Bool
  | .startFetch other .. => other = caller
  | .cancelFetch other => other = caller
  | _ => false

end QueueCall

namespace Store

variable {store : Store} {wall : Timestamp}

theorem exhausted_of_nothing (ordered : InOrder store.scheduled)
    (nothing : (store.promoteDue wall).pending = []) : store.Exhausted wall := by
  obtain ⟨nonePending, noneDue⟩ := List.append_eq_nil_iff.mp nothing
  refine ⟨nonePending, undue_of_next ordered ?_⟩
  intro retryAt next
  obtain ⟨first, atHead, rfl⟩ := Option.map_eq_some_iff.mp next
  obtain ⟨others, split⟩ := List.head?_eq_some_iff.mp atHead
  have undue : ¬ first.retryAt ≤ wall := by
    intro due
    rw [split, List.takeWhile_cons_of_pos (by simpa [isDue] using due)] at noneDue
    cases noneDue
  exact Int.not_le.mp undue

/-- A sleep lasts no longer than until any of the scheduled retries is due. -/
theorem sleep_until_le (ordered : InOrder store.scheduled) (now : Moment) (deadline : Nat)
    {entry : ScheduledTask} (member : entry ∈ store.scheduled) :
    MemoryQueue.sleepUntil now deadline store.nextRetry? ≤
      now.clock + now.wall.nanosUntil entry.retryAt := by
  unfold nextRetry?
  cases schedule : store.scheduled with
  | nil =>
      rw [schedule] at member
      cases member
  | cons first others =>
      rw [schedule] at ordered member
      have notLater : first.retryAt.nanos ≤ entry.retryAt.nanos := by
        rcases List.mem_cons.mp member with rfl | behind
        · exact Int.le_refl _
        · have before := (List.pairwise_cons.mp ordered).1 entry behind
          rw [ScheduledTask.precedes_iff] at before
          omega
      simp only [List.head?_cons, Option.map_some, MemoryQueue.sleepUntil, Timestamp.nanosUntil]
      omega

end Store

namespace MemoryQueue

variable {κ : Type} [DecidableEq κ] {queue next : MemoryQueue κ} {caller : κ} {cause : WakeCause}
  {now : Moment} {step : FetchStep} {woken : List κ} {fetch : Fetch κ}

theorem after_calls_append (queue : MemoryQueue κ) (early late : List (QueueCall κ)) :
    queue.afterCalls (early ++ late) = (queue.afterCalls early).afterCalls late :=
  List.foldl_append

theorem after_calls_concat (queue : MemoryQueue κ) (calls : List (QueueCall κ))
    (call : QueueCall κ) :
    queue.afterCalls (calls ++ [call]) = ((queue.afterCalls calls).serve call).1 :=
  after_calls_append queue calls [call]

section Turns

/-- What a step of a fetch does: a look takes a message or finds nothing; after a look that found
nothing the fetch gives up, falls asleep, or turns back to look again, as it does when it wakes. -/
inductive FetchTurn (caller : κ) (fetch : Fetch κ) (now : Moment) (queue next : MemoryQueue κ) :
    FetchStep → Prop where
  | took {message : TaskMessage} {others : List TaskMessage} (looking : fetch.stage = .looking)
      (front : (queue.store.promoteDue now.wall).pending = message :: others)
      (stored : next.store =
        { queue.store.promoteDue now.wall with
          pending := others
          inProgress := queue.store.inProgress ++ [message] }) :
      FetchTurn caller fetch now queue next (.returned (.ok (some message)))
  | nothing (looking : fetch.stage = .looking)
      (nothing : (queue.store.promoteDue now.wall).pending = [])
      (stored : next.store = queue.store)
      (found : next.fetchOf? caller =
        some { fetch with stage := .looked queue.store.nextRetry? }) :
      FetchTurn caller fetch now queue next .moved
  | gaveUp {nextRetry : Option Timestamp} (looked : fetch.stage = .looked nextRetry)
      (overdue : fetch.deadline ≤ now.clock) (stored : next.store = queue.store) :
      FetchTurn caller fetch now queue next (.returned (.ok none))
  | slept {nextRetry : Option Timestamp} (looked : fetch.stage = .looked nextRetry)
      (stored : next.store = queue.store)
      (found : next.fetchOf? caller =
        some { fetch with stage := .asleep (sleepUntil now fetch.deadline nextRetry) }) :
      FetchTurn caller fetch now queue next .moved
  | turned (stored : next.store = queue.store)
      (found : next.fetchOf? caller = some { fetch with stage := .looking }) :
      FetchTurn caller fetch now queue next .moved

theorem turn_of_look (found : queue.fetchOf? caller = some fetch) (looking : fetch.stage = .looking)
    (now : Moment) :
    FetchTurn caller fetch now queue (queue.look caller now).1 (queue.look caller now).2 := by
  cases pending : (queue.store.promoteDue now.wall).pending with
  | nil =>
      have nothing := Store.fetch_of_nothing pending
      simp only [look, nothing]
      exact .nothing looking pending rfl (found_after_stage found _)
  | cons message others =>
      have taken : (queue.store.fetch now.wall).1 = some message := by
        simp only [Store.fetch, pending]
      simp only [look, taken]
      refine .took looking pending ?_
      simp only [endFetch, Store.fetch, pending]
      rfl

theorem turn_of_settle (found : queue.fetchOf? caller = some fetch)
    {nextRetry : Option Timestamp} (looked : fetch.stage = .looked nextRetry) (cause : WakeCause)
    (now : Moment) :
    FetchTurn caller fetch now queue
      (queue.settle cause caller fetch.deadline nextRetry now).1
      (queue.settle cause caller fetch.deadline nextRetry now).2 := by
  simp only [settle]
  split
  case isTrue overdue => exact .gaveUp looked overdue rfl
  case isFalse =>
    split
    · exact .turned rfl (found_after_move found rfl)
    · split
      · exact .turned rfl (found_after_move found rfl)
      · exact .slept looked rfl (found_after_move found rfl)

theorem turn_of_wake (found : queue.fetchOf? caller = some fetch) {wakeAt : Nat}
    (woke : queue.wake cause caller wakeAt now = some (next, woken)) :
    FetchTurn caller fetch now queue next .moved := by
  cases cause <;>
    simp only [wake, Option.ite_none_right_eq_some, Option.some.injEq, Prod.mk.injEq] at woke
  all_goals
    obtain ⟨_, rfl, _⟩ := woke
    exact .turned rfl (found_after_move found rfl)

theorem fetch_turn (found : queue.fetchOf? caller = some fetch)
    (advanced : queue.advanceFetch cause caller now = some (next, step, woken)) :
    FetchTurn caller fetch now queue next step := by
  simp only [advanceFetch, found, Option.bind_eq_bind, Option.bind_some] at advanced
  cases stage : fetch.stage with
  | looking =>
      simp only [stage, Option.some.injEq, Prod.mk.injEq] at advanced
      obtain ⟨rfl, rfl, _⟩ := advanced
      exact turn_of_look found stage now
  | looked nextRetry =>
      simp only [stage, Option.some.injEq, Prod.mk.injEq] at advanced
      obtain ⟨rfl, rfl, _⟩ := advanced
      exact turn_of_settle found stage cause now
  | asleep wakeAt =>
      simp only [stage, Option.bind_eq_some_iff, Prod.exists, Option.some.injEq,
        Prod.mk.injEq] at advanced
      obtain ⟨_, _, woke, rfl, rfl, _⟩ := advanced
      exact turn_of_wake found woke

theorem fetch_of_advance {outcome : MemoryQueue κ × FetchStep × List κ}
    (advanced : queue.advanceFetch cause caller now = some outcome) :
    ∃ fetch, queue.fetchOf? caller = some fetch := by
  rw [← Option.ne_none_iff_exists']
  intro gone
  rw [absent_advance gone] at advanced
  cases advanced

/-- A fetch can take no step only in its sleep, and before it is to wake. -/
theorem asleep_when_blocked (found : queue.fetchOf? caller = some fetch)
    (blocked : ∀ cause, queue.advanceFetch cause caller now = none) :
    ∃ wakeAt, fetch.stage = .asleep wakeAt ∧ now.clock < wakeAt := by
  have stuck := blocked .timer
  simp only [advanceFetch, found, Option.bind_eq_bind, Option.bind_some] at stuck
  cases stage : fetch.stage with
  | looking | looked nextRetry =>
      rw [stage] at stuck
      cases stuck
  | asleep wakeAt =>
      refine ⟨wakeAt, rfl, Nat.lt_of_not_le fun past => ?_⟩
      simp [stage, wake, past] at stuck

theorem found_elsewhere_after_serve {call : QueueCall κ} (other : call.concerns caller = false) :
    (queue.serve call).1.fetchOf? caller = queue.fetchOf? caller := by
  cases call with
  | enqueue | report | restore =>
      exact found_of_same_fetches (serve_disturbs queue rfl).fetches caller
  | startFetch party timeout now =>
      have differs : caller ≠ party := fun same => by simp [QueueCall.concerns, same] at other
      simp only [serve]
      cases started : queue.startFetch party timeout now with
      | none => rfl
      | some begun => exact found_elsewhere_after_start differs started
  | advanceFetch party cause now =>
      have differs : caller ≠ party := fun same => by simp [QueueCall.concerns, same] at other
      simp only [serve]
      cases advanced : queue.advanceFetch cause party now with
      | none => rfl
      | some outcome => exact found_elsewhere_after_change (fetch_change advanced) differs
  | cancelFetch party =>
      have differs : caller ≠ party := fun same => by simp [QueueCall.concerns, same] at other
      exact found_elsewhere_after_end _ differs

theorem advance_of_concern {call : QueueCall κ} (alone : call.interferes caller = false)
    (own : call.concerns caller = true) :
    ∃ cause now, call = .advanceFetch caller cause now := by
  cases call with
  | enqueue | report | restore => cases own
  | startFetch | cancelFetch => exact absurd own (Bool.eq_false_iff.mp alone)
  | advanceFetch party cause now =>
      obtain rfl : party = caller := of_decide_eq_true own
      exact ⟨cause, now, rfl⟩

end Turns

section Past

def Rests (caller : κ) (queue : MemoryQueue κ) (calls : List (QueueCall κ)) : Prop :=
  ∀ early, early <+: calls → (queue.afterCalls early).fetchOf? caller = queue.fetchOf? caller

/-- The last step that the fetch of a caller takes in the calls is the one after the early calls. -/
def LastStep (caller : κ) (queue : MemoryQueue κ) (calls early : List (QueueCall κ))
    (now : Moment) : Prop :=
  ∃ cause late, calls = early ++ .advanceFetch caller cause now :: late ∧
    ((queue.afterCalls early).serve (.advanceFetch caller cause now)).1.Rests caller late

def LastLook (caller : κ) (queue : MemoryQueue κ) (calls : List (QueueCall κ)) (seen : Moment)
    (store : Store) : Prop :=
  ∃ early, LastStep caller queue calls early seen ∧
    ((queue.afterCalls early).fetchOf? caller).map Fetch.stage = some .looking ∧
      (queue.afterCalls early).store = store

/-- The last two steps that the fetch of a caller takes in the calls are a look at a store and then
the one at which it falls asleep. -/
def AsleepSince (caller : κ) (queue : MemoryQueue κ) (calls : List (QueueCall κ))
    (slept seen : Moment) (store : Store) : Prop :=
  ∃ early, LastStep caller queue calls early slept ∧ LastLook caller queue early seen store

variable {calls early : List (QueueCall κ)} {call : QueueCall κ} {seen slept : Moment}
  {store : Store}

theorem Rests.concat (rests : queue.Rests caller calls)
    (kept : (queue.afterCalls (calls ++ [call])).fetchOf? caller =
      (queue.afterCalls calls).fetchOf? caller) : queue.Rests caller (calls ++ [call]) := by
  intro early prior
  rcases List.prefix_concat_iff.mp prior with rfl | before
  · exact kept.trans (rests calls List.prefix_rfl)
  · exact rests early before

theorem last_step_now (caller : κ) (queue : MemoryQueue κ) (calls : List (QueueCall κ))
    (cause : WakeCause) (now : Moment) :
    LastStep caller queue (calls ++ [.advanceFetch caller cause now]) calls now := by
  refine ⟨cause, [], rfl, ?_⟩
  intro early prior
  rw [List.prefix_nil.mp prior]
  rfl

theorem LastStep.concat (last : LastStep caller queue calls early now)
    (kept : (queue.afterCalls (calls ++ [call])).fetchOf? caller =
      (queue.afterCalls calls).fetchOf? caller) :
    LastStep caller queue (calls ++ [call]) early now := by
  obtain ⟨cause, late, rfl, rests⟩ := last
  refine ⟨cause, late ++ [call], by simp, rests.concat ?_⟩
  have split (more : List (QueueCall κ)) :
      queue.afterCalls (early ++ .advanceFetch caller cause now :: more) =
        ((queue.afterCalls early).serve (.advanceFetch caller cause now)).1.afterCalls more :=
    after_calls_append queue early _
  rwa [List.append_assoc, List.cons_append, split, split] at kept

theorem LastLook.concat (last : LastLook caller queue calls seen store)
    (kept : (queue.afterCalls (calls ++ [call])).fetchOf? caller =
      (queue.afterCalls calls).fetchOf? caller) :
    LastLook caller queue (calls ++ [call]) seen store := by
  obtain ⟨early, step, looking, stored⟩ := last
  exact ⟨early, step.concat kept, looking, stored⟩

theorem AsleepSince.concat (since : AsleepSince caller queue calls slept seen store)
    (kept : (queue.afterCalls (calls ++ [call])).fetchOf? caller =
      (queue.afterCalls calls).fetchOf? caller) :
    AsleepSince caller queue (calls ++ [call]) slept seen store := by
  obtain ⟨early, step, look⟩ := since
  exact ⟨early, step.concat kept, look⟩

end Past

section Following

inductive CameTo (caller : κ) (begun : MemoryQueue κ) (deadline : Nat)
    (calls : List (QueueCall κ)) : FetchStage → Prop where
  | looking : CameTo caller begun deadline calls .looking
  | looked {seen : Moment} {store : Store} (look : LastLook caller begun calls seen store)
      (ordered : Store.InOrder store.scheduled) (nothing : store.Exhausted seen.wall) :
      CameTo caller begun deadline calls (.looked store.nextRetry?)
  | asleep {slept seen : Moment} {store : Store}
      (since : AsleepSince caller begun calls slept seen store)
      (ordered : Store.InOrder store.scheduled) :
      CameTo caller begun deadline calls (.asleep (sleepUntil slept deadline store.nextRetry?))

/-- A fetch that is still under way has the deadline and has come to its stage in the calls. -/
def Followed (caller : κ) (begun : MemoryQueue κ) (deadline : Nat) (calls : List (QueueCall κ)) :
    Prop :=
  ∀ fetch, (begun.afterCalls calls).fetchOf? caller = some fetch →
    fetch.deadline = deadline ∧ CameTo caller begun deadline calls fetch.stage

variable {begun : MemoryQueue κ} {deadline : Nat} {calls : List (QueueCall κ)}
  {call : QueueCall κ}

theorem CameTo.concat {stage : FetchStage} (came : CameTo caller begun deadline calls stage)
    (kept : (begun.afterCalls (calls ++ [call])).fetchOf? caller =
      (begun.afterCalls calls).fetchOf? caller) :
    CameTo caller begun deadline (calls ++ [call]) stage := by
  cases came with
  | looking => exact .looking
  | looked look ordered nothing => exact .looked (look.concat kept) ordered nothing
  | asleep since ordered => exact .asleep (since.concat kept) ordered

theorem followed_in_rest (followed : Followed caller begun deadline calls)
    (kept : (begun.afterCalls (calls ++ [call])).fetchOf? caller =
      (begun.afterCalls calls).fetchOf? caller) :
    Followed caller begun deadline (calls ++ [call]) := by
  intro fetch found
  obtain ⟨same, came⟩ := followed fetch (kept ▸ found)
  exact ⟨same, came.concat kept⟩

theorem followed_after_turn (followed : Followed caller begun deadline calls)
    (ordered : Store.InOrder (begun.afterCalls calls).store.scheduled)
    (found : (begun.afterCalls calls).fetchOf? caller = some fetch)
    (advanced : (begun.afterCalls calls).advanceFetch cause caller now = some (next, step, woken)) :
    Followed caller begun deadline (calls ++ [.advanceFetch caller cause now]) := by
  obtain ⟨same, came⟩ := followed fetch found
  have served : begun.afterCalls (calls ++ [.advanceFetch caller cause now]) = next := by
    rw [after_calls_concat]
    simp only [serve, advanced]
  have last := last_step_now caller begun calls cause now
  intro later laterFound
  rw [served] at laterFound
  cases fetch_turn found advanced with
  | took looking front stored =>
      rw [absent_after_end (fetch_change advanced)] at laterFound
      cases laterFound
  | gaveUp looked overdue stored =>
      rw [absent_after_end (fetch_change advanced)] at laterFound
      cases laterFound
  | nothing looking nothing stored nowFound =>
      obtain rfl := Option.some.inj (nowFound.symm.trans laterFound)
      have look : LastLook caller begun (calls ++ [.advanceFetch caller cause now]) now
          (begun.afterCalls calls).store :=
        ⟨calls, last, by rw [found, Option.map_some, looking], rfl⟩
      exact ⟨same, .looked look ordered (Store.exhausted_of_nothing ordered nothing)⟩
  | slept looked stored nowFound =>
      obtain rfl := Option.some.inj (nowFound.symm.trans laterFound)
      refine ⟨same, ?_⟩
      rw [looked] at came
      cases came with
      | looked look ordered nothing =>
          rw [same]
          exact .asleep ⟨calls, last, look⟩ ordered
  | turned stored nowFound =>
      obtain rfl := Option.some.inj (nowFound.symm.trans laterFound)
      exact ⟨same, .looking⟩

theorem followed_after_call (followed : Followed caller begun deadline calls)
    (ordered : Store.InOrder (begun.afterCalls calls).store.scheduled)
    (alone : call.interferes caller = false) :
    Followed caller begun deadline (calls ++ [call]) := by
  by_cases own : call.concerns caller = true
  · obtain ⟨cause, now, rfl⟩ := advance_of_concern alone own
    cases advanced : (begun.afterCalls calls).advanceFetch cause caller now with
    | none =>
        apply followed_in_rest followed
        rw [after_calls_concat]
        simp only [serve, advanced]
    | some outcome =>
        obtain ⟨next, step, woken⟩ := outcome
        obtain ⟨fetch, found⟩ := fetch_of_advance advanced
        exact followed_after_turn followed ordered found advanced
  · apply followed_in_rest followed
    rw [after_calls_concat]
    exact found_elsewhere_after_serve (Bool.eq_false_iff.mpr own)

theorem followed_after_calls (reachable : begun.Reachable)
    (first : Followed caller begun deadline [])
    (alone : ∀ call ∈ calls, call.interferes caller = false) :
    Followed caller begun deadline calls := by
  induction calls using List.reverseRecOn with
  | nil => exact first
  | append_singleton calls call ih =>
      have before := ih fun call member => alone call (List.mem_append_left _ member)
      exact followed_after_call before
        (schedule_of_reachable (reachable_after_calls reachable calls))
        (alone call (List.mem_append_right _ (List.mem_singleton_self call)))

theorem begun_found {timeout : Duration} {start : Moment} (absent : queue.fetchOf? caller = none)
    (started : queue.startFetch caller timeout start = some begun) :
    begun.fetchOf? caller = some ⟨caller, start.clock + timeout.nanos, .looking⟩ ∧
      begun = (queue.serve (.startFetch caller timeout start)).1 := by
  refine ⟨?_, by simp only [serve, started, Option.getD_some]⟩
  simp only [startFetch, Option.map_eq_some_iff, Moment.deadline?, Option.ite_none_right_eq_some,
    Option.some.injEq] at started
  obtain ⟨_, ⟨_, rfl⟩, rfl⟩ := started
  rw [fetchOf?] at absent
  simp [fetchOf?, List.find?_append, absent]

end Following

section Answers

variable {begun : MemoryQueue κ} {calls : List (QueueCall κ)}

/-- A fetch that has ended does not come back by itself. -/
theorem absent_after_calls (absent : queue.fetchOf? caller = none)
    (alone : ∀ call ∈ calls, call.interferes caller = false) :
    (queue.afterCalls calls).fetchOf? caller = none := by
  induction calls generalizing queue with
  | nil => exact absent
  | cons call later ih =>
      obtain ⟨first, rest⟩ := List.forall_mem_cons.mp alone
      refine ih ?_ rest
      by_cases own : call.concerns caller = true
      · obtain ⟨cause, now, rfl⟩ := advance_of_concern first own
        simp only [serve, absent_advance absent]
        exact absent
      · rw [found_elsewhere_after_serve (Bool.eq_false_iff.mpr own)]
        exact absent

/-- As long as a fetch is under way, its steps leave the store as it is. -/
theorem store_kept_by_step (going : (queue.serve (.advanceFetch caller cause now)).1.fetchOf? caller
    ≠ none) : (queue.serve (.advanceFetch caller cause now)).1.store = queue.store := by
  simp only [serve] at going ⊢
  cases advanced : queue.advanceFetch cause caller now with
  | none => rfl
  | some outcome =>
      obtain ⟨next, step, woken⟩ := outcome
      rw [advanced] at going
      obtain ⟨fetch, found⟩ := fetch_of_advance advanced
      cases fetch_turn found advanced with
      | took | gaveUp => exact absurd (absent_after_end (fetch_change advanced)) going
      | nothing _ _ stored | slept _ stored | turned stored => exact stored

/-- A fetch that can take no step is asleep, before its deadline and before any retry is due that
was scheduled when it looked last. -/
theorem wait_when_blocked {deadline : Nat} (followed : Followed caller begun deadline calls)
    (going : (begun.afterCalls calls).fetchOf? caller ≠ none)
    (blocked : ∀ cause, (begun.afterCalls calls).advanceFetch cause caller now = none) :
    now.clock < deadline ∧
      ∃ slept seen store, AsleepSince caller begun calls slept seen store ∧
        ∀ entry ∈ store.scheduled,
          now.clock < slept.clock + slept.wall.nanosUntil entry.retryAt ∧
            (slept.Leads now → now.wall < entry.retryAt) := by
  obtain ⟨fetch, found⟩ := Option.ne_none_iff_exists'.mp going
  obtain ⟨wakeAt, asleep, unended⟩ := asleep_when_blocked found blocked
  obtain ⟨same, came⟩ := followed fetch found
  rw [asleep] at came
  cases came with
  | @asleep slept seen store since ordered =>
      refine ⟨Nat.lt_of_lt_of_le unended (sleep_within_deadline _ _ _), slept, seen, store, since,
        ?_⟩
      intro entry member
      have within := Nat.lt_of_lt_of_le unended
        (Store.sleep_until_le ordered slept deadline member)
      refine ⟨within, ?_⟩
      rintro ⟨clock, wall⟩
      simp only [Timestamp.nanosUntil] at within
      change now.wall.nanos < entry.retryAt.nanos
      omega

/-- A fetch that is still under way after some calls has left the store as it was at each of its
steps in them. -/
theorem store_kept_while_going (found : (begun.afterCalls calls).fetchOf? caller = some fetch)
    (alone : ∀ call ∈ calls, call.interferes caller = false) {early : List (QueueCall κ)}
    {own : WakeCause} {seen : Moment}
    (prior : early ++ [.advanceFetch caller own seen] <+: calls) :
    (begun.afterCalls (early ++ [.advanceFetch caller own seen])).store =
      (begun.afterCalls early).store := by
  rw [after_calls_concat]
  apply store_kept_by_step
  rw [← after_calls_concat]
  intro gone
  obtain ⟨late, rfl⟩ := prior
  have still := absent_after_calls gone fun call member =>
    alone call (List.mem_append_right _ member)
  rw [← after_calls_append, found] at still
  cases still

/-- The step at which a fetch answers. -/
theorem answer_cases {deadline : Nat} (followed : Followed caller begun deadline calls)
    {answer : Except CallFailure (Option TaskMessage)}
    (advanced : (begun.afterCalls calls).advanceFetch cause caller now =
      some (next, .returned answer, woken)) :
    (answer = .ok none ∧ deadline ≤ now.clock ∧
        next.store = (begun.afterCalls calls).store ∧
        ∃ seen store, LastLook caller begun calls seen store ∧ store.Exhausted seen.wall) ∨
      ∃ message others, answer = .ok (some message) ∧
        ((begun.afterCalls calls).store.promoteDue now.wall).pending = message :: others ∧
          next.store =
            { (begun.afterCalls calls).store.promoteDue now.wall with
              pending := others
              inProgress := (begun.afterCalls calls).store.inProgress ++ [message] } := by
  obtain ⟨fetch, found⟩ := fetch_of_advance advanced
  obtain ⟨same, came⟩ := followed fetch found
  cases fetch_turn found advanced with
  | took looking front stored => exact .inr ⟨_, _, rfl, front, stored⟩
  | gaveUp looked overdue stored =>
      rw [looked] at came
      cases came with
      | looked look ordered nothing =>
          exact .inl ⟨rfl, same ▸ overdue, stored, _, _, look, nothing⟩

/-- A fetch is followed from its start through any calls of others, as long as nobody begins or
drops a fetch in its name. Whenever it waits, its deadline is still to come, it has fallen asleep
after a look, and no retry that was scheduled at that look has become due since. When it answers,
none of its steps before has changed the store. It answers with nothing only at its deadline, when
its last step was a look at a store in which nothing was pending and no retry was due; and with a
message only by a look that moves this message from the front of the pending ones, as they are once
the due retries are among them, to those in progress. -/
theorem answer_of_fetch (before during : List (QueueCall κ)) (timeout : Duration) (start : Moment)
    (absent : ((empty : MemoryQueue κ).afterCalls before).fetchOf? caller = none)
    (started : ((empty : MemoryQueue κ).afterCalls before).startFetch caller timeout start =
      some begun)
    (alone : ∀ call ∈ during, call.interferes caller = false) :
    (∀ early, early <+: during → (begun.afterCalls early).fetchOf? caller ≠ none →
        ∀ now : Moment, (∀ cause, (begun.afterCalls early).advanceFetch cause caller now = none) →
          now.clock < start.clock + timeout.nanos ∧
            ∃ slept seen store, AsleepSince caller begun early slept seen store ∧
              ∀ entry ∈ store.scheduled,
                now.clock < slept.clock + slept.wall.nanosUntil entry.retryAt ∧
                  (slept.Leads now → now.wall < entry.retryAt)) ∧
      ∀ (cause : WakeCause) (now : Moment) (next : MemoryQueue κ)
        (answer : Except CallFailure (Option TaskMessage)) (woken : List κ),
        (begun.afterCalls during).advanceFetch cause caller now =
            some (next, .returned answer, woken) →
          (∀ early own seen, early ++ [.advanceFetch caller own seen] <+: during →
              (begun.afterCalls (early ++ [.advanceFetch caller own seen])).store =
                (begun.afterCalls early).store) ∧
            ((answer = .ok none ∧ start.clock + timeout.nanos ≤ now.clock ∧
                next.store = (begun.afterCalls during).store ∧
                ∃ seen store, LastLook caller begun during seen store ∧
                  store.Exhausted seen.wall) ∨
              ∃ message others, answer = .ok (some message) ∧
                ((begun.afterCalls during).store.promoteDue now.wall).pending =
                    message :: others ∧
                  next.store =
                    { (begun.afterCalls during).store.promoteDue now.wall with
                      pending := others
                      inProgress := (begun.afterCalls during).store.inProgress ++ [message] }) := by
  obtain ⟨atFirst, asServed⟩ := begun_found absent started
  have reachable : begun.Reachable := by
    rw [asServed]
    exact reachable_after_calls ⟨before, rfl⟩ [.startFetch caller timeout start]
  have first : Followed caller begun (start.clock + timeout.nanos) [] := by
    intro fetch found
    obtain rfl := Option.some.inj (atFirst.symm.trans found)
    exact ⟨rfl, .looking⟩
  have followed (early : List (QueueCall κ)) (prior : early <+: during) :
      Followed caller begun (start.clock + timeout.nanos) early :=
    followed_after_calls reachable first fun call member => alone call (prior.subset member)
  constructor
  · intro early prior going now blocked
    exact wait_when_blocked (followed early prior) going blocked
  · intro cause now next answer woken advanced
    obtain ⟨fetch, found⟩ := fetch_of_advance advanced
    constructor
    · intro early own seen prior
      exact store_kept_while_going found alone prior
    · exact answer_cases (followed during List.prefix_rfl) advanced

end Answers

section Runs

/-- A message has been fetched and put off for fifteen seconds. -/
def putOff : List (QueueCall Nat) :=
  [.enqueue (parcel 1), .startFetch 0 patience outset, .advanceFetch 0 .told outset,
    .report (parcel 1) (.retry (Timestamp.epoch.later (.ofSeconds 15)))]

def nextFetch : MemoryQueue Nat :=
  (((empty : MemoryQueue Nat).afterCalls putOff).serve (.startFetch 1 patience outset)).1

def afterTenSeconds : Moment := ⟨patience.nanos, Timestamp.epoch.later patience⟩

/-- The next fetch finds nothing, looks again because the retry has rung, and falls asleep. -/
def toSleep : List (QueueCall Nat) :=
  List.replicate 4 (.advanceFetch 1 .told outset)

/-- It wakes at its deadline and looks once more. -/
def toDeadline : List (QueueCall Nat) :=
  toSleep ++ List.replicate 2 (.advanceFetch 1 .timer afterTenSeconds)

theorem fetch_in_vain :
    (∃ slept seen store, AsleepSince 1 nextFetch toSleep slept seen store) ∧
      (∃ next woken, (nextFetch.afterCalls toDeadline).advanceFetch .timer 1 afterTenSeconds =
        some (next, .returned (.ok none), woken)) ∧
      ∃ seen store, LastLook 1 nextFetch toDeadline seen store ∧ store.Exhausted seen.wall := by
  have absent : ((empty : MemoryQueue Nat).afterCalls putOff).fetchOf? 1 = none := by decide
  have started : ((empty : MemoryQueue Nat).afterCalls putOff).startFetch 1 patience outset =
      some nextFetch := rfl
  obtain ⟨waits, answers⟩ :=
    answer_of_fetch putOff toDeadline patience outset absent started (by decide)
  obtain ⟨_, slept, seen, store, since, _⟩ :=
    waits toSleep (List.prefix_append _ _) (by decide) outset (by decide)
  have answered : (nextFetch.afterCalls toDeadline).advanceFetch .timer 1 afterTenSeconds =
      some ((nextFetch.afterCalls toDeadline).endFetch 1, .returned (.ok none), []) := rfl
  refine ⟨⟨slept, seen, store, since⟩, ⟨_, _, answered⟩, ?_⟩
  obtain ⟨_, ⟨_, _, _, look⟩ | ⟨_, _, brought, _⟩⟩ := answers _ _ _ _ _ answered
  · exact look
  · cases brought

end Runs

end MemoryQueue

end TaskDispatch
