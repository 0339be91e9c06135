import Mathlib.Data.List.Induction
import TaskDispatch.Proofs.Queue.Annals

/-!
# The versions of a message

A queue keeps of every message the version that it was given last, by the enqueue call or by an
accepted retry. A fetch, a restore or a refused report gives no version, and a message that is
executed keeps the one it was fetched with. So what a restore makes pending again is exactly what
the queue was given, however the executions before it were cut off.
-/

namespace TaskDispatch

set_option autoImplicit false

def lastGiven? (id : TaskId) (deeds : List QueueDeed) : Option TaskMessage :=
  ((deeds.filterMap QueueDeed.given?).filter fun version => version.id = id).getLast?

section LastGiven

variable {id : TaskId} {deeds : List QueueDeed} {deed : QueueDeed} {version : TaskMessage}

theorem last_given_after_none (nothing : deed.given? = none) :
    lastGiven? id (deeds ++ [deed]) = lastGiven? id deeds := by
  unfold lastGiven?
  rw [List.filterMap_append, List.filterMap_cons_none nothing, List.filterMap_nil,
    List.append_nil]

theorem last_given_after_own (given : deed.given? = some version) (own : version.id = id) :
    lastGiven? id (deeds ++ [deed]) = some version := by
  unfold lastGiven?
  rw [List.filterMap_append, List.filterMap_cons_some given, List.filterMap_nil,
    List.filter_append, List.filter_cons_of_pos (by simpa using own), List.filter_nil,
    List.getLast?_concat]

theorem last_given_after_other (given : deed.given? = some version) (other : version.id ≠ id) :
    lastGiven? id (deeds ++ [deed]) = lastGiven? id deeds := by
  unfold lastGiven?
  rw [List.filterMap_append, List.filterMap_cons_some given, List.filterMap_nil,
    List.filter_append, List.filter_cons_of_neg (by simpa using other), List.filter_nil,
    List.append_nil]

end LastGiven

namespace Store

/-- Every message that may still be executed is the version given last. -/
def UpToDate (deeds : List QueueDeed) (store : Store) : Prop :=
  ∀ message ∈ store.alive, lastGiven? message.id deeds = some message

variable {deeds : List QueueDeed} {store next : Store} {deed : QueueDeed} {version : TaskMessage}

/-- A deed that gives no version and brings no message keeps a store up to date. -/
theorem up_to_date_without_version (current : store.UpToDate deeds)
    (nothing : deed.given? = none) (fewer : next.alive ≤ store.alive) :
    next.UpToDate (deeds ++ [deed]) := by
  intro message member
  rw [last_given_after_none nothing]
  exact current message (Multiset.mem_of_le fewer member)

/-- A version that is given takes the place of the one before. -/
theorem up_to_date_with_version (current : store.UpToDate deeds)
    (given : deed.given? = some version) {others : Multiset TaskMessage}
    (alive : next.alive = version ::ₘ others) (known : others ≤ store.alive)
    (fresh : version.id ∉ others.map TaskMessage.id) : next.UpToDate (deeds ++ [deed]) := by
  intro message member
  rw [alive] at member
  rcases Multiset.mem_cons.mp member with rfl | old
  · exact last_given_after_own given rfl
  · have differs : version.id ≠ message.id := by
      intro same
      apply fresh
      rw [same]
      exact Multiset.mem_map_of_mem _ old
    rw [last_given_after_other given differs]
    exact current message (Multiset.mem_of_le known old)

/-- While identifiers are distinct, every deed keeps a store up to date. -/
theorem up_to_date_after_step {deed : Option QueueDeed} (step : StoreStep store deed next)
    (distinct : store.ids.Nodup) (distinctAfter : next.ids.Nodup)
    (current : store.UpToDate deeds) : next.UpToDate (deeds ++ deed.toList) := by
  cases step with
  | unchanged =>
      rw [Option.toList_none, List.append_nil]
      exact current
  | enqueued message =>
      have fresh := alive_nodup distinctAfter
      rw [alive_after_enqueue, Multiset.map_cons, Multiset.nodup_cons] at fresh
      exact
        up_to_date_with_version current rfl (alive_after_enqueue message store) (le_refl _)
          fresh.1
  | looked wall =>
      apply up_to_date_without_version current rfl
      rw [alive_after_fetch]
  | @reported message report found others same taken =>
      have before := alive_around taken
      have fewer : ({ store with inProgress := others } : Store).alive ≤ store.alive := by
        rw [before]
        exact Multiset.le_cons_self _ _
      have filed := alive_after_file message { store with inProgress := others } report
      cases report with
      | retry retryAt =>
          have alone := alive_nodup distinct
          rw [before, Multiset.map_cons, Multiset.nodup_cons, same] at alone
          rw [Report.renewed, Multiset.singleton_add] at filed
          exact up_to_date_with_version current rfl filed fewer alone.1
      | complete | kill =>
          apply up_to_date_without_version current rfl
          rw [filed]
          simp only [Report.renewed, zero_add]
          exact fewer
  | restored =>
      apply up_to_date_without_version current rfl
      rw [alive_after_restore]

end Store

namespace QueueAnnals

variable {κ : Type} [DecidableEq κ]

theorem enqueued_le_after_call (annals : QueueAnnals κ) (call : QueueCall κ) :
    annals.enqueued ≤ (annals.serve call).enqueued := by
  cases call with
  | enqueue message => exact Multiset.le_add_right _ _
  | advanceFetch caller cause now =>
      simp only [serve, QueueRecord.serve]
      split <;> exact le_refl _
  | startFetch | cancelFetch | report | restore => exact le_refl _

theorem ids_nodup (calls : List (QueueCall κ))
    (distinct : ((unused : QueueAnnals κ).serveAll calls).enqueued.Nodup) :
    ((unused : QueueAnnals κ).serveAll calls).queue.store.ids.Nodup := by
  apply Multiset.nodup_of_le _ distinct
  rw [← (balanced calls).conserved]
  exact Multiset.le_add_right _ _

theorem up_to_date (calls : List (QueueCall κ))
    (distinct : ((unused : QueueAnnals κ).serveAll calls).enqueued.Nodup) :
    ((unused : QueueAnnals κ).serveAll calls).queue.store.UpToDate
      ((unused : QueueAnnals κ).serveAll calls).deeds := by
  induction calls using List.reverseRecOn with
  | nil =>
      intro message member
      exact absurd member (Multiset.notMem_zero message)
  | append_singleton calls call ih =>
      have distinctAfter := ids_nodup (calls ++ [call]) distinct
      rw [serve_all_append] at distinct distinctAfter ⊢
      -- No call forgets what was enqueued, so what is distinct at the end was so all along.
      have distinctBefore := Multiset.nodup_of_le (enqueued_le_after_call _ call) distinct
      exact
        Store.up_to_date_after_step (serve_is_step _ call) (ids_nodup calls distinctBefore)
          distinctAfter (ih distinctBefore)

/-- With distinct identifiers a restore makes everything that is neither completed nor dead
available again, each message once and in the version given last. -/
theorem versions_after_restore (calls : List (QueueCall κ))
    (distinct : ((unused : QueueAnnals κ).serveAll calls).enqueued.Nodup) :
    let annals := (unused : QueueAnnals κ).serveAll calls
    let store := annals.queue.store
    ∀ id ∈ annals.enqueued, id ∉ annals.completed → id ∉ idsOf store.dead →
      ∃ version, lastGiven? id annals.deeds = some version ∧
        (store.restore.2.pending ++ store.restore.2.scheduled.map ScheduledTask.message).filter
          (fun message => message.id = id) = [version] := by
  intro annals store id enqueued incomplete undead
  have waiting : (↑(store.restore.2.pending
      ++ store.restore.2.scheduled.map ScheduledTask.message) : Multiset TaskMessage) =
        store.alive := by
    rw [← Store.alive_after_restore store, Store.alive, Store.restore, Multiset.coe_nil, add_zero,
      Multiset.coe_add]
  have present : id ∈ store.alive.map TaskMessage.id := by
    rw [← (balanced calls).conserved, Multiset.mem_add, Store.ids_eq_alive_and_dead,
      Multiset.mem_add] at enqueued
    rcases enqueued with (alive | dead) | completed
    · exact alive
    · exact absurd dead undead
    · exact absurd completed incomplete
  obtain ⟨version, member, own⟩ := Multiset.mem_map.mp present
  have latest : lastGiven? id annals.deeds = some version := by
    rw [← own]
    exact up_to_date calls distinct version member
  refine ⟨version, latest, ?_⟩
  have alone := Store.alive_nodup (ids_nodup calls distinct)
  rw [← waiting, Multiset.map_coe, Multiset.coe_nodup] at alone
  rw [← waiting, Multiset.mem_coe] at member
  exact filter_of_distinct alone member own

end QueueAnnals

end TaskDispatch
