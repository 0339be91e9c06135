import TaskDispatch.Proofs.Queue.Conservation

/-!
# The annals of a queue

Calls change the messages of a queue in memory by four kinds of deeds only: a message is added, a
fetch looks at the store, a report is accepted, and what is in progress is made pending again. The
annals of a queue tell these deeds in the order in which they were done. What every deed keeps, any
calls keep.
-/

namespace TaskDispatch

set_option autoImplicit false

inductive QueueDeed where
  | enqueued (message : TaskMessage)
  | looked (wall : Timestamp) (found : Option TaskMessage)
  | reported (message : TaskMessage) (report : Report)
  | restored (orphans : List TaskMessage)
  deriving DecidableEq

namespace QueueDeed

def delivered? : QueueDeed → Option TaskMessage
  | .looked _ found => found
  | _ => none

/-- The version of a message that has been given to the queue for execution. -/
def given? : QueueDeed → Option TaskMessage
  | .enqueued message => some message
  | .reported message (.retry _) => some message
  | _ => none

end QueueDeed

inductive StoreStep : Store → Option QueueDeed → Store → Prop where
  | unchanged {store : Store} : StoreStep store none store
  | enqueued {store : Store} (message : TaskMessage) :
      StoreStep store (some (.enqueued message)) (store.enqueue message)
  | looked {store : Store} (wall : Timestamp) :
      StoreStep store (some (.looked wall (store.fetch wall).1)) (store.fetch wall).2
  | reported {store : Store} (message : TaskMessage) (report : Report) {found : TaskMessage}
      {others : List TaskMessage} (same : found.id = message.id)
      (taken : store.inProgress.Perm (found :: others)) :
      StoreStep store (some (.reported message report))
        (({ store with inProgress := others } : Store).file message report)
  | restored {store : Store} :
      StoreStep store (some (.restored store.inProgress)) store.restore.2

theorem alive_around {store : Store} {found : TaskMessage} {others : List TaskMessage}
    (taken : store.inProgress.Perm (found :: others)) :
    store.alive = found ::ₘ ({ store with inProgress := others } : Store).alive := by
  simp only [Store.alive, Multiset.coe_eq_coe.mpr taken, ← Multiset.cons_coe,
    ← Multiset.singleton_add]
  abel

namespace MemoryQueue

variable {κ : Type}

theorem report_is_step (message : TaskMessage) (queue : MemoryQueue κ) (report : Report)
    (present : queue.store.Holds message.id) :
    StoreStep queue.store (some (.reported message report))
      (queue.report message report).state.store := by
  obtain ⟨_, found, others, same, taken, filed⟩ :=
    queue.report_accepted message report present
  rw [filed]
  exact .reported message report same taken

variable [DecidableEq κ]

/-- The deed of a call. A fetch that sleeps or wakes does nothing to the store, and a report that
is refused does nothing at all. -/
def deed? (queue : MemoryQueue κ) : QueueCall κ → Option QueueDeed
  | .enqueue message => some (.enqueued message)
  | .advanceFetch caller _ now =>
      match (queue.fetchOf? caller).map Fetch.stage with
      | some .looking => some (.looked now.wall (queue.store.fetch now.wall).1)
      | _ => none
  | .report message report =>
      if queue.store.Holds message.id then some (.reported message report) else none
  | .restore => some (.restored queue.store.inProgress)
  | .startFetch .. => none
  | .cancelFetch _ => none

theorem store_after_look (caller : κ) (now : Moment) (queue : MemoryQueue κ) :
    (queue.look caller now).1.store = (queue.store.fetch now.wall).2 := by
  unfold look
  cases queue.store.fetch now.wall with
  | mk found store => cases found <;> rfl

theorem store_after_settle (cause : WakeCause) (caller : κ) (deadline : Nat)
    (nextRetry : Option Timestamp) (now : Moment) (queue : MemoryQueue κ) :
    (queue.settle cause caller deadline nextRetry now).1.store = queue.store := by
  unfold settle
  split
  · rfl
  · simp only
    split
    · rfl
    · split <;> rfl

theorem nothing_taken_by_settle (cause : WakeCause) (caller : κ) (deadline : Nat)
    (nextRetry : Option Timestamp) (now : Moment) (queue : MemoryQueue κ) :
    (queue.settle cause caller deadline nextRetry now).2.taken? = none := by
  unfold settle
  split
  · rfl
  · simp only
    split
    · rfl
    · split <;> rfl

theorem store_after_wake {cause : WakeCause} {caller : κ} {wakeAt : Nat} {now : Moment}
    {queue next : MemoryQueue κ} {woken : List κ}
    (woke : queue.wake cause caller wakeAt now = some (next, woken)) :
    next.store = queue.store := by
  cases cause <;>
    simp only [wake, Option.ite_none_right_eq_some, Option.some.injEq, Prod.mk.injEq] at woke
  all_goals
    obtain ⟨_, rfl, _⟩ := woke
    rfl

theorem delivered_by_advance {cause : WakeCause} {caller : κ} {now : Moment}
    {queue next : MemoryQueue κ} {step : FetchStep} {woken : List κ}
    (advanced : queue.advanceFetch cause caller now = some (next, step, woken)) :
    (queue.deed? (.advanceFetch caller cause now)).bind QueueDeed.delivered? = step.taken? := by
  simp only [advanceFetch, Option.bind_eq_bind, Option.bind_eq_some_iff] at advanced
  obtain ⟨fetch, found, advanced⟩ := advanced
  simp only [deed?, found, Option.map_some]
  cases stage : fetch.stage with
  | looking =>
      simp only [stage, look, Option.some.injEq, Prod.mk.injEq] at advanced
      cases looked : queue.store.fetch now.wall with
      | mk message store =>
          simp only [looked] at advanced
          cases message with
          | none | some =>
              obtain ⟨_, rfl, _⟩ := advanced
              rfl
  | looked nextRetry =>
      simp only [stage, Option.some.injEq, Prod.mk.injEq] at advanced
      obtain ⟨_, rfl, _⟩ := advanced
      rw [nothing_taken_by_settle]
      rfl
  | asleep wakeAt =>
      simp only [stage, Option.bind_eq_some_iff, Prod.exists, Option.some.injEq,
        Prod.mk.injEq] at advanced
      obtain ⟨_, _, _, _, rfl, _⟩ := advanced
      rfl

theorem no_deed_without_advance {cause : WakeCause} {caller : κ} {now : Moment}
    {queue : MemoryQueue κ} (stuck : queue.advanceFetch cause caller now = none) :
    queue.deed? (.advanceFetch caller cause now) = none := by
  simp only [advanceFetch, Option.bind_eq_bind] at stuck
  cases found : queue.fetchOf? caller with
  | none => simp only [deed?, found, Option.map_none]
  | some fetch =>
      simp only [found, Option.bind_some] at stuck
      cases stage : fetch.stage with
      | looking => simp only [stage, reduceCtorEq] at stuck
      | looked | asleep => simp only [deed?, found, Option.map_some, stage]

end MemoryQueue

structure QueueAnnals (κ : Type) extends QueueRecord κ where
  deeds : List QueueDeed

namespace QueueAnnals

variable {κ : Type}

def unused : QueueAnnals κ := { (QueueRecord.unused : QueueRecord κ) with deeds := [] }

variable [DecidableEq κ]

def serve (annals : QueueAnnals κ) (call : QueueCall κ) : QueueAnnals κ :=
  { annals.toQueueRecord.serve call with
    deeds := annals.deeds ++ (annals.queue.deed? call).toList }

def serveAll (annals : QueueAnnals κ) (calls : List (QueueCall κ)) : QueueAnnals κ :=
  calls.foldl serve annals

theorem serve_all_append (annals : QueueAnnals κ) (early late : List (QueueCall κ)) :
    annals.serveAll (early ++ late) = (annals.serveAll early).serveAll late :=
  List.foldl_append

theorem deeds_grow (annals : QueueAnnals κ) (calls : List (QueueCall κ)) :
    annals.deeds <+: (annals.serveAll calls).deeds := by
  induction calls generalizing annals with
  | nil => exact List.prefix_rfl
  | cons call calls ih =>
      have grown : annals.deeds <+: (annals.serve call).deeds := List.prefix_append _ _
      exact grown.trans (ih (annals.serve call))

theorem record_of_serve_all (annals : QueueAnnals κ) (calls : List (QueueCall κ)) :
    (annals.serveAll calls).toQueueRecord = annals.toQueueRecord.serveAll calls := by
  induction calls generalizing annals with
  | nil => rfl
  | cons call calls ih => exact ih (annals.serve call)

theorem balanced (calls : List (QueueCall κ)) :
    ((unused : QueueAnnals κ).serveAll calls).toQueueRecord.Balanced := by
  rw [record_of_serve_all]
  exact QueueRecord.serve_all_keeps_balance QueueRecord.unused_balanced calls

theorem fetch_is_step (annals : QueueAnnals κ) (caller : κ) (cause : WakeCause) (now : Moment) :
    StoreStep annals.queue.store (annals.queue.deed? (.advanceFetch caller cause now))
      (annals.serve (.advanceFetch caller cause now)).queue.store := by
  simp only [serve, QueueRecord.serve, MemoryQueue.deed?, MemoryQueue.advanceFetch]
  cases annals.queue.fetchOf? caller with
  | none => exact .unchanged
  | some fetch =>
      cases stage : fetch.stage with
      | looking =>
          simp only [Option.map_some, stage, Option.bind_eq_bind, Option.bind_some,
            MemoryQueue.store_after_look]
          exact .looked now.wall
      | looked nextRetry =>
          simp only [Option.map_some, stage, Option.bind_eq_bind, Option.bind_some,
            MemoryQueue.store_after_settle]
          exact .unchanged
      | asleep wakeAt =>
          simp only [Option.map_some, stage, Option.bind_eq_bind, Option.bind_some]
          cases woke : annals.queue.wake cause caller wakeAt now with
          | none => exact .unchanged
          | some outcome =>
              simp only [Option.bind_some, MemoryQueue.store_after_wake woke]
              exact .unchanged

theorem serve_is_step (annals : QueueAnnals κ) (call : QueueCall κ) :
    StoreStep annals.queue.store (annals.queue.deed? call) (annals.serve call).queue.store := by
  cases call with
  | enqueue message => exact .enqueued message
  | startFetch caller timeout now =>
      simp only [serve, QueueRecord.serve, MemoryQueue.deed?, MemoryQueue.startFetch]
      cases now.deadline? timeout <;> exact .unchanged
  | advanceFetch caller cause now => exact annals.fetch_is_step caller cause now
  | cancelFetch caller => exact .unchanged
  | report message report =>
      simp only [serve, QueueRecord.serve, MemoryQueue.deed?]
      by_cases present : annals.queue.store.Holds message.id
      · rw [if_pos present]
        exact annals.queue.report_is_step message report present
      · rw [if_neg present, (annals.queue.report_refused message report present).2]
        exact .unchanged
  | restore =>
      simp only [serve, QueueRecord.serve, MemoryQueue.deed?, MemoryQueue.restored_store]
      exact .restored

/-- What holds of a store with its deeds, and is kept by every deed, holds after any calls. -/
theorem annals_keep (kept : List QueueDeed → Store → Prop)
    (keeps : ∀ (deeds : List QueueDeed) (store next : Store) (deed : Option QueueDeed),
      StoreStep store deed next → kept deeds store → kept (deeds ++ deed.toList) next)
    (annals : QueueAnnals κ) (before : kept annals.deeds annals.queue.store)
    (calls : List (QueueCall κ)) :
    kept (annals.serveAll calls).deeds (annals.serveAll calls).queue.store := by
  induction calls generalizing annals with
  | nil => exact before
  | cons call calls ih =>
      apply ih (annals.serve call)
      exact keeps _ _ _ _ (annals.serve_is_step call) before

end QueueAnnals

namespace MemoryQueue

variable {κ : Type} [DecidableEq κ]

def serve (call : QueueCall κ) (queue : MemoryQueue κ) : MemoryQueue κ × List κ :=
  match call with
  | .enqueue message => queue.enqueue message
  | .startFetch caller timeout now => ((queue.startFetch caller timeout now).getD queue, [])
  | .advanceFetch caller cause now =>
      match queue.advanceFetch cause caller now with
      | some (next, _, woken) => (next, woken)
      | none => (queue, [])
  | .cancelFetch caller => queue.cancelFetch caller
  | .report message report =>
      ((queue.report message report).state, (queue.report message report).woken)
  | .restore => (queue.restore.state, queue.restore.woken)

def afterCalls (queue : MemoryQueue κ) (calls : List (QueueCall κ)) : MemoryQueue κ :=
  calls.foldl (fun queue call => (queue.serve call).1) queue

/-- The message that a call answers its caller with. -/
def returned? (queue : MemoryQueue κ) : QueueCall κ → Option TaskMessage
  | .advanceFetch caller cause now =>
      (queue.advanceFetch cause caller now).bind fun (_, step, _) => step.taken?
  | _ => none

def returns (queue : MemoryQueue κ) : List (QueueCall κ) → List TaskMessage
  | [] => []
  | call :: calls => (queue.returned? call).toList ++ (queue.serve call).1.returns calls

theorem queue_after_serve (record : QueueRecord κ) (call : QueueCall κ) :
    (record.serve call).queue = (record.queue.serve call).1 := by
  cases call with
  | advanceFetch caller cause now =>
      simp only [QueueRecord.serve, serve]
      cases record.queue.advanceFetch cause caller now <;> rfl
  | enqueue | startFetch | cancelFetch | report | restore => rfl

theorem queue_after_calls (annals : QueueAnnals κ) (calls : List (QueueCall κ)) :
    (annals.serveAll calls).queue = annals.queue.afterCalls calls := by
  induction calls generalizing annals with
  | nil => rfl
  | cons call calls ih =>
      have first : (annals.serve call).queue = (annals.queue.serve call).1 :=
        queue_after_serve annals.toQueueRecord call
      change ((annals.serve call).serveAll calls).queue = _
      rw [ih, first]
      rfl

/-- What the annals say that a call has delivered is what it has answered with. -/
theorem delivered_is_returned (queue : MemoryQueue κ) (call : QueueCall κ) :
    (queue.deed? call).bind QueueDeed.delivered? = queue.returned? call := by
  cases call with
  | advanceFetch caller cause now =>
      simp only [returned?]
      cases advanced : queue.advanceFetch cause caller now with
      | none => rw [no_deed_without_advance advanced]; rfl
      | some outcome => exact delivered_by_advance advanced
  | report message report =>
      simp only [deed?, returned?]
      split <;> rfl
  | enqueue | startFetch | cancelFetch | restore => rfl

def Reachable (queue : MemoryQueue κ) : Prop := ∃ calls, queue = empty.afterCalls calls

theorem reachable_after_calls {queue : MemoryQueue κ} (reachable : queue.Reachable)
    (more : List (QueueCall κ)) : (queue.afterCalls more).Reachable := by
  obtain ⟨calls, rfl⟩ := reachable
  refine ⟨calls ++ more, ?_⟩
  unfold afterCalls
  rw [List.foldl_append]

end MemoryQueue

end TaskDispatch
