import TaskDispatch.Proofs.Queue.Intake

/-!
# What a fetch takes

The messages that wait in a queue are those that are pending and those that will be when their time
has come. Beginning a fetch leaves them alone, and every step of it takes from them what it returns.
-/

namespace TaskDispatch

set_option autoImplicit false

/-- A view of the messages that wait in a backend, from which a fetch takes what it returns. -/
structure Backend.FetchesFrom {κ β : Type} (backend : Backend κ β)
    (waiting : β → Multiset TaskMessage) : Prop where
  begun : ∀ {caller timeout now state next events},
    backend.startFetch caller timeout now state = some (next, events) →
      waiting next = waiting state
  advanced : ∀ {cause caller now state next step woken},
    backend.advanceFetch cause caller now state = some (next, step, woken) →
      waiting state = ↑step.taken?.toList + waiting next

namespace Store

def awaiting (store : Store) : Multiset TaskMessage :=
  ↑(store.pending ++ store.scheduled.map ScheduledTask.message)

theorem awaiting_after_fetch (wall : Timestamp) (store : Store) :
    store.awaiting = ↑(store.fetch wall).1.toList + (store.fetch wall).2.awaiting := by
  have parts : store.scheduled.map ScheduledTask.message =
      (store.scheduled.takeWhile (isDue wall)).map ScheduledTask.message ++
        (store.scheduled.dropWhile (isDue wall)).map ScheduledTask.message := by
    rw [← List.map_append, List.takeWhile_append_dropWhile]
  unfold awaiting
  rw [parts, ← List.append_assoc, ← pending_after_fetch, (scheduled_after_fetch wall store).1,
    Multiset.coe_add, List.append_assoc]

end Store

namespace MemoryQueue

variable {κ : Type}

/-- The messages that wait for a fetch, now or when their time has come. -/
def awaiting (queue : MemoryQueue κ) : Multiset TaskMessage := queue.store.awaiting

theorem fetches_from_awaiting [DecidableEq κ] :
    (backend : Backend κ (MemoryQueue κ)).FetchesFrom awaiting := by
  constructor
  case begun =>
    intro caller timeout now state next events started
    simp only [backend, startFetch, Option.map_map, Option.map_eq_some_iff] at started
    obtain ⟨deadline, _, started⟩ := started
    cases started
    rfl
  case advanced =>
    intro cause caller now state next step woken advanced
    have looked {found : Option TaskMessage}
        (look : state.store.fetch now.wall = (found, next.store)) :
        state.awaiting = ↑found.toList + next.awaiting := by
      have whole := state.store.awaiting_after_fetch now.wall
      rw [look] at whole
      exact whole
    rcases store_after_fetch_step advanced with ⟨message, rfl, look⟩ | ⟨nothing, unchanged⟩
    · exact looked look
    · have taken : step.taken? = none := by
        rcases nothing with rfl | rfl <;> rfl
      rw [taken]
      rcases unchanged with same | look
      · simp [awaiting, same]
      · exact looked look

end MemoryQueue

end TaskDispatch
