import Mathlib.Data.List.Range
import TaskDispatch.Proofs.Queue.Annals
import TaskDispatch.Proofs.Queue.Schedule

/-!
# The intake of a queue

Messages come to the pending ones in three ways: they are enqueued, made pending again by a restore,
or scheduled by a retry call that has come due when a fetch looks. The intake is the book of these
arrivals, kept from the deeds alone. What the queue has delivered and what is pending in it are
together the arrivals, in their order.
-/

namespace TaskDispatch

set_option autoImplicit false

/-- How a message came to the pending ones. A retry has the number of its retry call. -/
inductive Arrival where
  | enqueued (message : TaskMessage)
  | restored (message : TaskMessage)
  | retried (call : Nat) (message : TaskMessage)
  deriving DecidableEq

namespace Arrival

def message : Arrival → TaskMessage
  | .enqueued message => message
  | .restored message => message
  | .retried _ message => message

def call? : Arrival → Option Nat
  | .retried call _ => some call
  | _ => none

end Arrival

def ScheduledTask.arrival (entry : ScheduledTask) : Arrival :=
  .retried entry.sequence entry.message

/-- The arrivals so far, the retries that still wait in the order of their calls, and the number
of retry calls. -/
structure Intake where
  arrivals : List Arrival
  waiting : List ScheduledTask
  retries : Nat

namespace Intake

def empty : Intake where
  arrivals := []
  waiting := []
  retries := 0

/-- A look lets all waiting retries in whose time has come, the earliest first, and those of one
time in the order of their calls. -/
def after (intake : Intake) : QueueDeed → Intake
  | .enqueued message => { intake with arrivals := intake.arrivals ++ [.enqueued message] }
  | .looked wall _ =>
      { intake with
        arrivals := intake.arrivals
          ++ (ScheduledTask.dueInOrder wall intake.waiting).map ScheduledTask.arrival
        waiting := intake.waiting.filter fun entry => !decide (entry.retryAt ≤ wall) }
  | .reported message (.retry retryAt) =>
      { intake with
        waiting := intake.waiting
          ++ [{ retryAt := retryAt, sequence := intake.retries, message := message }]
        retries := intake.retries + 1 }
  | .reported _ .complete => intake
  | .reported _ .kill => intake
  | .restored orphans =>
      { intake with arrivals := intake.arrivals ++ orphans.map Arrival.restored }

def of (deeds : List QueueDeed) : Intake := deeds.foldl after empty

theorem of_concat (deeds : List QueueDeed) (deed : QueueDeed) :
    of (deeds ++ [deed]) = (of deeds).after deed := by
  simp [of, List.foldl_append]

/-- Arrivals are only added, behind those that there are. -/
theorem arrivals_grow (deeds more : List QueueDeed) :
    (of deeds).arrivals <+: (of (deeds ++ more)).arrivals := by
  induction more using List.reverseRecOn with
  | nil => exact ⟨[], by rw [List.append_nil, List.append_nil]⟩
  | append_singleton more deed ih =>
      rw [← List.append_assoc, of_concat]
      apply ih.trans
      cases deed with
      | enqueued message => exact List.prefix_append _ _
      | looked wall found => exact List.prefix_append _ _
      | reported message report => cases report <;> exact List.prefix_rfl
      | restored orphans => exact List.prefix_append _ _

end Intake

def deliveries (deeds : List QueueDeed) : List TaskMessage :=
  deeds.filterMap QueueDeed.delivered?

theorem deliveries_concat (deeds : List QueueDeed) (deed : QueueDeed) :
    deliveries (deeds ++ [deed]) = deliveries deeds ++ deed.delivered?.toList := by
  unfold deliveries
  rw [List.filterMap_append]
  rfl

namespace Store

theorem pending_after_fetch (wall : Timestamp) (store : Store) :
    (store.fetch wall).1.toList ++ (store.fetch wall).2.pending =
      store.pending ++ (store.scheduled.takeWhile (isDue wall)).map ScheduledTask.message := by
  have promoted : (store.promoteDue wall).pending =
      store.pending ++ (store.scheduled.takeWhile (isDue wall)).map ScheduledTask.message := rfl
  rw [← promoted]
  simp only [fetch]
  split
  case h_1 nothing => rw [nothing, Option.toList_none, List.nil_append]
  case h_2 message others taken => rw [taken, Option.toList_some, List.singleton_append]

theorem scheduled_after_fetch (wall : Timestamp) (store : Store) :
    (store.fetch wall).2.scheduled = store.scheduled.dropWhile (isDue wall) ∧
      (store.fetch wall).2.nextSequence = store.nextSequence := by
  simp only [fetch]
  split <;> exact ⟨rfl, rfl⟩

/-- A store after some deeds agrees with the intake: what has been delivered and what is pending
are the arrivals, and what is scheduled is what waits. -/
structure Serves (deeds : List QueueDeed) (store : Store) : Prop where
  served : deliveries deeds ++ store.pending = (Intake.of deeds).arrivals.map Arrival.message
  numbered : store.nextSequence = (Intake.of deeds).retries
  scheduled : store.scheduled.Perm (Intake.of deeds).waiting
  ordered : InOrder store.scheduled
  calls : ((Intake.of deeds).arrivals.filterMap Arrival.call?
      ++ (Intake.of deeds).waiting.map ScheduledTask.sequence).Perm
    (List.range (Intake.of deeds).retries)

variable {deeds : List QueueDeed} {store : Store}

theorem serves_after_enqueue (serves : store.Serves deeds) (message : TaskMessage) :
    (store.enqueue message).Serves (deeds ++ [.enqueued message]) := by
  have intake := Intake.of_concat deeds (.enqueued message)
  constructor
  case served =>
    rw [intake, deliveries_concat]
    simp only [QueueDeed.delivered?, Option.toList_none, List.append_nil, enqueue,
      Intake.after, List.map_append, List.map_cons, List.map_nil, Arrival.message,
      ← serves.served, List.append_assoc]
  case numbered =>
    rw [intake]
    exact serves.numbered
  case scheduled =>
    rw [intake]
    exact serves.scheduled
  case ordered => exact serves.ordered
  case calls =>
    rw [intake]
    simp only [Intake.after, List.filterMap_append]
    rw [show [Arrival.enqueued message].filterMap Arrival.call? = [] from rfl, List.append_nil]
    exact serves.calls

theorem serves_after_look (serves : store.Serves deeds) (wall : Timestamp) :
    (store.fetch wall).2.Serves (deeds ++ [.looked wall (store.fetch wall).1]) := by
  have intake := Intake.of_concat deeds (.looked wall (store.fetch wall).1)
  obtain ⟨scheduled, numbered⟩ := scheduled_after_fetch wall store
  have due := due_of_schedule wall serves.ordered serves.scheduled
  have left := (due_stand_first wall serves.ordered).2
  constructor
  case served =>
    have promoted := pending_after_fetch wall store
    rw [due] at promoted
    rw [intake, deliveries_concat]
    simp only [QueueDeed.delivered?, List.append_assoc, promoted, Intake.after,
      List.map_append, List.map_map, ← serves.served]
    rfl
  case numbered =>
    rw [intake, numbered]
    exact serves.numbered
  case scheduled =>
    rw [intake, scheduled, left]
    exact serves.scheduled.filter _
  case ordered =>
    rw [scheduled]
    exact serves.ordered.sublist (List.dropWhile_sublist _)
  case calls =>
    rw [intake]
    simp only [Intake.after, List.filterMap_append]
    have letIn : ((ScheduledTask.dueInOrder wall (Intake.of deeds).waiting).map
        ScheduledTask.arrival).filterMap Arrival.call? =
          (ScheduledTask.dueInOrder wall (Intake.of deeds).waiting).map
            ScheduledTask.sequence := by
      rw [List.filterMap_map]
      exact congrFun List.filterMap_eq_map _
    have parted : ((ScheduledTask.dueInOrder wall (Intake.of deeds).waiting)
        ++ (Intake.of deeds).waiting.filter fun entry => !decide (entry.retryAt ≤ wall)).Perm
          (Intake.of deeds).waiting := by
      refine ((ScheduledTask.due_in_order_perm wall _).append_right _).trans ?_
      exact List.filter_append_perm _ _
    rw [letIn, List.append_assoc, ← List.map_append]
    exact ((parted.map ScheduledTask.sequence).append_left _).trans serves.calls

/-- A deed that lets nobody in and delivers nothing leaves the books as they are. -/
theorem serves_after_other (serves : store.Serves deeds) {next : Store} {deed : QueueDeed}
    (silent : deed.delivered? = none)
    (same : (Intake.of deeds).after deed = Intake.of deeds)
    (pending : next.pending = store.pending) (scheduled : next.scheduled = store.scheduled)
    (numbered : next.nextSequence = store.nextSequence) :
    next.Serves (deeds ++ [deed]) := by
  have intake : Intake.of (deeds ++ [deed]) = Intake.of deeds := by
    rw [Intake.of_concat, same]
  constructor
  case served =>
    rw [intake, deliveries_concat, silent, pending, Option.toList_none, List.append_nil]
    exact serves.served
  case numbered =>
    rw [intake, numbered]
    exact serves.numbered
  case scheduled =>
    rw [intake, scheduled]
    exact serves.scheduled
  case ordered =>
    rw [scheduled]
    exact serves.ordered
  case calls =>
    rw [intake]
    exact serves.calls

theorem serves_after_retry (serves : store.Serves deeds) (message : TaskMessage)
    (retryAt : Timestamp) (others : List TaskMessage) :
    (({ store with inProgress := others } : Store).file message (.retry retryAt)).Serves
      (deeds ++ [.reported message (.retry retryAt)]) := by
  have intake := Intake.of_concat deeds (.reported message (.retry retryAt))
  constructor
  case served =>
    rw [intake, deliveries_concat]
    simp only [QueueDeed.delivered?, Option.toList_none, List.append_nil]
    exact serves.served
  case numbered =>
    rw [intake]
    simp only [file, Intake.after, serves.numbered]
  case scheduled =>
    rw [intake]
    simp only [file, Intake.after, serves.numbered]
    refine (schedule_perm _ _).trans ?_
    refine (serves.scheduled.cons _).trans ?_
    exact (List.perm_append_singleton _ _).symm
  case ordered =>
    apply schedule_in_order serves.ordered
    intro other member
    have waiting := serves.scheduled.mem_iff.mp member
    have given : other.sequence ∈ List.range (Intake.of deeds).retries := by
      apply serves.calls.mem_iff.mp
      exact List.mem_append_right _ (List.mem_map_of_mem waiting)
    have below := List.mem_range.mp given
    simp only [serves.numbered]
    omega
  case calls =>
    rw [intake]
    simp only [Intake.after, List.map_append, List.map_cons, List.map_nil, List.range_succ]
    rw [← List.append_assoc]
    exact serves.calls.append_right _

theorem serves_after_restore (serves : store.Serves deeds) :
    store.restore.2.Serves (deeds ++ [.restored store.inProgress]) := by
  have intake := Intake.of_concat deeds (.restored store.inProgress)
  have messages : store.inProgress.map (Arrival.message ∘ Arrival.restored) =
      store.inProgress := List.map_id _
  have unnumbered : (store.inProgress.map Arrival.restored).filterMap Arrival.call? = [] := by
    rw [List.filterMap_map, List.filterMap_eq_nil_iff]
    intro entry _
    rfl
  constructor
  case served =>
    rw [intake, deliveries_concat]
    simp only [QueueDeed.delivered?, Option.toList_none, List.append_nil, restore,
      Intake.after, List.map_append, List.map_map, messages, ← serves.served,
      List.append_assoc]
  case numbered =>
    rw [intake]
    exact serves.numbered
  case scheduled =>
    rw [intake]
    exact serves.scheduled
  case ordered => exact serves.ordered
  case calls =>
    rw [intake]
    simp only [Intake.after, List.filterMap_append, unnumbered, List.append_nil]
    exact serves.calls

theorem serves_after_step {next : Store} {deed : Option QueueDeed}
    (step : StoreStep store deed next) (serves : store.Serves deeds) :
    next.Serves (deeds ++ deed.toList) := by
  cases step with
  | unchanged =>
      rw [Option.toList_none, List.append_nil]
      exact serves
  | enqueued message => exact serves_after_enqueue serves message
  | looked wall => exact serves_after_look serves wall
  | @reported message report found others =>
      cases report with
      | complete => exact serves_after_other serves rfl rfl rfl rfl rfl
      | retry retryAt => exact serves_after_retry serves message retryAt others
      | kill => exact serves_after_other serves rfl rfl rfl rfl rfl
  | restored => exact serves_after_restore serves

end Store

theorem queue_serves {κ : Type} [DecidableEq κ] (calls : List (QueueCall κ)) :
    ((QueueAnnals.unused : QueueAnnals κ).serveAll calls).queue.store.Serves
      ((QueueAnnals.unused : QueueAnnals κ).serveAll calls).deeds := by
  apply QueueAnnals.annals_keep fun deeds store => store.Serves deeds
  · intro deeds store next deed step serves
    exact Store.serves_after_step step serves
  · exact
      { served := rfl
        numbered := rfl
        scheduled := List.Perm.refl _
        ordered := List.Pairwise.nil
        calls := List.Perm.refl _ }

theorem schedule_of_reachable {κ : Type} [DecidableEq κ] {queue : MemoryQueue κ}
    (reachable : queue.Reachable) : Store.InOrder queue.store.scheduled := by
  obtain ⟨calls, rfl⟩ := reachable
  have ordered := (queue_serves calls).ordered
  rw [MemoryQueue.queue_after_calls] at ordered
  exact ordered

end TaskDispatch
