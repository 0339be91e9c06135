import TaskDispatch.Proofs.Worker.Holdings

/-!
# The accounts of the messages

One processor with a bounded retry policy executes what others enqueue, each message under an
identifier of its own. Its history accounts for all that the store contains: every stored message is
what the failures reported of it have made of the enqueued one, the dead have failed once more than
they could be retried, and nothing is executed that is dead or completed.
-/

namespace TaskDispatch

set_option autoImplicit false

namespace Episode

variable (episode : Episode TaskMessage)

/-- An episode that reports no result of any message reports no failure and no completion. -/
theorem no_failure_of_quiet (quiet : ∀ id, episode.resultOf? id = none) (id : TaskId) :
    episode.failureOf? id = none := by
  cases episode with
  | outside message => rfl
  | called message => rfl
  | concluded message result => simpa [resultOf?] using quiet message.id

theorem no_completion_of_quiet (quiet : ∀ id, episode.resultOf? id = none) :
    episode.completed? = none := by
  cases episode with
  | outside message => rfl
  | called message => rfl
  | concluded message result => simpa [resultOf?] using quiet message.id

end Episode

namespace History

variable (history : List (Episode TaskMessage)) (episode : Episode TaskMessage) (id : TaskId)

theorem enqueued_concat :
    enqueued (history ++ [episode]) = enqueued history ++ episode.enqueued?.toList :=
  filter_map_concat _ _ _

theorem results_concat :
    results id (history ++ [episode]) = results id history ++ (episode.resultOf? id).toList :=
  filter_map_concat _ _ _

theorem failures_concat :
    failures id (history ++ [episode]) = failures id history ++ (episode.failureOf? id).toList :=
  filter_map_concat _ _ _

theorem completed_concat :
    completed (history ++ [episode]) = completed history ++ episode.completed?.toList :=
  filter_map_concat _ _ _

theorem executions_concat :
    executions id (history ++ [episode]) =
      executions id history + if episode.isCallOf id then 1 else 0 := by
  unfold executions
  rw [List.countP_append, List.countP_singleton]

theorem enqueued_le (more : List (Episode TaskMessage)) :
    idsOf (enqueued history) ≤ idsOf (enqueued (history ++ more)) := by
  unfold enqueued
  rw [List.filterMap_append, ids_of_append]
  exact Multiset.le_add_right _ _

end History

open History

/-- An enqueued message whose failures number as `fits` says, and what they have made of it. -/
def TracedTo (history : List (Episode TaskMessage)) (fits : Nat → Nat → Prop)
    (version : TaskMessage) : Prop :=
  ∃ original ∈ enqueued history,
    version = original.afterFailures (failures original.id history) ∧
      fits (failures original.id history).length original.retriesLeft

structure Accounted (history : List (Episode TaskMessage)) (holdings : Holdings) : Prop where
  owned : (↑holdings.store.inProgress : Multiset TaskMessage) =
    holdings.awaiting + holdings.executing
  conserved : holdings.store.ids + ↑(completed history) = idsOf (enqueued history)
  counted : holdings.store.done = (completed history).length
  known : ∀ id, results id history ≠ [] → id ∈ idsOf (enqueued history)
  executed : ∀ id, executions id history =
    (results id history).length + (holdings.executing.map TaskMessage.id).count id
  concluded : ∀ id, results id history =
    (failures id history).map .error ++ if id ∈ completed history then [.ok ()] else []
  alive : ∀ version ∈ holdings.store.alive, TracedTo history (· ≤ ·) version
  dead : ∀ version ∈ holdings.store.dead,
    TracedTo history (fun failed left => failed = left + 1) version
  done : ∀ id ∈ completed history, ∃ version, version.id = id ∧ TracedTo history (· ≤ ·) version

variable {history : List (Episode TaskMessage)} {episode : Episode TaskMessage}
  {holdings next : Holdings} {version message : TaskMessage} {fits : Nat → Nat → Prop}

/-- A version stays traced while others fail. -/
theorem TracedTo.unaffected (traced : TracedTo history fits version)
    (other : episode.failureOf? version.id = none) :
    TracedTo (history ++ [episode]) fits version := by
  obtain ⟨original, member, rfl, fitting⟩ := traced
  rw [TaskMessage.after_failures_id] at other
  have same : failures original.id (history ++ [episode]) = failures original.id history := by
    rw [failures_concat, other, Option.toList_none, List.append_nil]
  refine ⟨original, ?_, ?_, ?_⟩
  · rw [enqueued_concat]
    exact List.mem_append_left _ member
  · rw [same]
  · rw [same]
    exact fitting

/-- A version that fails is traced with one failure more. -/
theorem TracedTo.failed {text : String} (traced : TracedTo history (· ≤ ·) version)
    (own : episode.failureOf? version.id = some text) (fits : Nat → Nat → Prop)
    (fitting : ∀ failed left, failed ≤ left → version.retriesLeft = left - failed →
      fits (failed + 1) left) :
    TracedTo (history ++ [episode]) fits (version.afterFailure text) := by
  obtain ⟨original, member, rfl, within⟩ := traced
  rw [TaskMessage.after_failures_id] at own
  have more : failures original.id (history ++ [episode]) =
      failures original.id history ++ [text] := by
    rw [failures_concat, own, Option.toList_some]
  refine ⟨original, ?_, ?_, ?_⟩
  · rw [enqueued_concat]
    exact List.mem_append_left _ member
  · rw [more, TaskMessage.after_failures_concat]
  · rw [more, List.length_append, List.length_singleton]
    exact fitting _ _ within (TaskMessage.after_failures_left _ _)

theorem TracedTo.original (traced : TracedTo history fits version)
    (distinct : (idsOf (enqueued history)).Nodup) (member : message ∈ enqueued history)
    (same : version.id = message.id) :
    version = message.afterFailures (failures message.id history) ∧
      fits (failures message.id history).length message.retriesLeft := by
  obtain ⟨original, among, rfl, fitting⟩ := traced
  rw [TaskMessage.after_failures_id] at same
  have one : original = message :=
    List.inj_on_of_nodup_map (Multiset.coe_nodup.mp distinct) among member same
  subst one
  exact ⟨rfl, fitting⟩

theorem accounted_at_first : Accounted [] ⟨0, 0, .empty⟩ where
  owned := rfl
  conserved := rfl
  counted := rfl
  known := fun _ something => absurd rfl something
  executed := fun _ => rfl
  concluded := fun _ => rfl
  alive := fun _ member => absurd member (Multiset.notMem_zero _)
  dead := fun _ member => absurd member List.not_mem_nil
  done := fun _ member => absurd member List.not_mem_nil

theorem no_results_without_enqueue (accounted : Accounted history holdings) {id : TaskId}
    (unknown : id ∉ idsOf (enqueued history)) :
    results id history = [] ∧ failures id history = [] := by
  have nothing : results id history = [] := by
    by_contra something
    exact unknown (accounted.known id something)
  have form := accounted.concluded id
  rw [nothing] at form
  have empty := List.append_eq_nil_iff.mp form.symm
  exact ⟨nothing, List.map_eq_nil_iff.mp empty.1⟩

/-- Distinct identifiers are in the store once, or completed once. -/
theorem ids_apart (accounted : Accounted history holdings)
    (distinct : (idsOf (enqueued history)).Nodup) :
    holdings.store.ids.Nodup ∧ ∀ id ∈ holdings.store.ids, id ∉ completed history := by
  rw [← accounted.conserved] at distinct
  obtain ⟨stored, _, apart⟩ := Multiset.nodup_add.mp distinct
  refine ⟨stored, ?_⟩
  intro id member done
  exact Multiset.disjoint_left.mp apart member (Multiset.mem_coe.mpr done)

theorem Accounted.of_moves (accounted : Accounted history holdings)
    (owned : (↑next.store.inProgress : Multiset TaskMessage) = next.awaiting + next.executing)
    (executing : next.executing = holdings.executing)
    (alive : next.store.alive = holdings.store.alive)
    (dead : next.store.dead = holdings.store.dead)
    (done : next.store.done = holdings.store.done) : Accounted history next where
  owned := owned
  conserved := by
    rw [Store.ids_eq_alive_and_dead, alive, dead, ← Store.ids_eq_alive_and_dead]
    exact accounted.conserved
  counted := done.trans accounted.counted
  known := accounted.known
  executed := by
    rw [executing]
    exact accounted.executed
  concluded := accounted.concluded
  alive := by
    rw [alive]
    exact accounted.alive
  dead := by
    rw [dead]
    exact accounted.dead
  done := accounted.done

section Steps

variable {awaiting executing : Multiset TaskMessage} {store : Store}

theorem accounted_after_look (accounted : Accounted history ⟨awaiting, executing, store⟩)
    (wall : Timestamp) :
    Accounted history
      ⟨awaiting + ↑(store.fetch wall).1.toList, executing, (store.fetch wall).2⟩ := by
  apply accounted.of_moves
  · rw [Store.in_progress_after_fetch, ← Multiset.coe_add, accounted.owned]
    exact add_right_comm _ _ _
  · rfl
  · exact Store.alive_after_fetch wall store
  · exact Store.dead_after_fetch wall store
  · exact Store.done_after_fetch wall store

theorem accounted_after_restore (accounted : Accounted history ⟨0, 0, store⟩) :
    Accounted history ⟨0, 0, store.restore.2⟩ := by
  apply accounted.of_moves
  · rfl
  · rfl
  · exact Store.alive_after_restore store
  · rfl
  · rfl

/-- An episode that reports no result adds at most what others enqueue. -/
theorem accounted_after_quiet (accounted : Accounted history holdings)
    (quiet : ∀ id, episode.resultOf? id = none)
    (owned : (↑next.store.inProgress : Multiset TaskMessage) = next.awaiting + next.executing)
    (conserved : next.store.ids + ↑(completed history) =
      idsOf (enqueued (history ++ [episode])))
    (executed : ∀ id, executions id (history ++ [episode]) =
      (results id history).length + (next.executing.map TaskMessage.id).count id)
    (alive : ∀ version ∈ next.store.alive,
      version ∈ holdings.store.alive ∨ TracedTo (history ++ [episode]) (· ≤ ·) version)
    (dead : next.store.dead = holdings.store.dead)
    (done : next.store.done = holdings.store.done) :
    Accounted (history ++ [episode]) next := by
  have sameResults (id : TaskId) : results id (history ++ [episode]) = results id history := by
    rw [results_concat, quiet, Option.toList_none, List.append_nil]
  have noFailure (id : TaskId) : episode.failureOf? id = none := episode.no_failure_of_quiet quiet id
  have sameFailures (id : TaskId) : failures id (history ++ [episode]) = failures id history := by
    rw [failures_concat, noFailure, Option.toList_none, List.append_nil]
  have sameCompleted : completed (history ++ [episode]) = completed history := by
    rw [completed_concat, episode.no_completion_of_quiet quiet, Option.toList_none,
      List.append_nil]
  constructor
  case owned => exact owned
  case conserved =>
    rw [sameCompleted]
    exact conserved
  case counted =>
    rw [sameCompleted, done]
    exact accounted.counted
  case known =>
    intro id something
    rw [sameResults] at something
    exact Multiset.mem_of_le (enqueued_le history [episode]) (accounted.known id something)
  case executed =>
    intro id
    rw [sameResults]
    exact executed id
  case concluded =>
    intro id
    rw [sameResults, sameFailures, sameCompleted]
    exact accounted.concluded id
  case alive =>
    intro version member
    rcases alive version member with old | traced
    · exact (accounted.alive version old).unaffected (noFailure _)
    · exact traced
  case dead =>
    intro version member
    rw [dead] at member
    exact (accounted.dead version member).unaffected (noFailure _)
  case done =>
    intro id member
    rw [sameCompleted] at member
    obtain ⟨version, own, traced⟩ := accounted.done id member
    exact ⟨version, own, traced.unaffected (noFailure _)⟩

theorem accounted_after_call
    (accounted : Accounted history ⟨{message} + awaiting, executing, store⟩) :
    Accounted (history ++ [.called message]) ⟨awaiting, {message} + executing, store⟩ := by
  have sameEnqueued : enqueued (history ++ [.called message]) = enqueued history :=
    (enqueued_concat _ _).trans (List.append_nil _)
  apply accounted_after_quiet accounted
  case quiet => exact fun _ => rfl
  case owned => exact accounted.owned.trans ((add_assoc _ _ _).trans (add_left_comm _ _ _))
  case conserved =>
    rw [sameEnqueued]
    exact accounted.conserved
  case executed =>
    intro id
    rw [executions_concat, accounted.executed, Multiset.map_add, Multiset.map_singleton,
      Multiset.count_add, Multiset.count_singleton]
    simp only [Episode.isCallOf, decide_eq_true_eq, eq_comm (a := id)]
    omega
  case alive => exact fun _ member => .inl member
  case dead => rfl
  case done => rfl

theorem accounted_after_enqueue (accounted : Accounted history ⟨awaiting, executing, store⟩)
    (fresh : message.id ∉ idsOf (enqueued history)) :
    Accounted (history ++ [.outside message]) ⟨awaiting, executing, store.enqueue message⟩ := by
  have oneMore : enqueued (history ++ [.outside message]) = enqueued history ++ [message] :=
    enqueued_concat _ _
  apply accounted_after_quiet accounted
  case quiet => exact fun _ => rfl
  case owned => exact accounted.owned
  case conserved =>
    rw [oneMore, ids_of_append, ← accounted.conserved, Store.ids_after_enqueue, ids_of_cons,
      ids_of_nil, Multiset.cons_zero, Multiset.cons_add, ← Multiset.singleton_add, add_comm]
  case executed =>
    intro id
    rw [executions_concat]
    exact accounted.executed id
  case alive =>
    intro version member
    rw [Store.alive_after_enqueue] at member
    rcases Multiset.mem_cons.mp member with rfl | old
    · right
      have nothing : failures version.id (history ++ [.outside version]) = [] := by
        rw [failures_concat, (no_results_without_enqueue accounted fresh).2]
        rfl
      refine ⟨version, ?_, ?_, ?_⟩
      · rw [oneMore]
        exact List.mem_append_right _ (List.mem_singleton_self _)
      · rw [nothing]
        rfl
      · rw [nothing]
        exact Nat.zero_le _
    · exact .inl old
  case dead => rfl
  case done => rfl

/-- What a report on a message finds: the entry taken out is the message itself, and no other
message of the store has its identifier. -/
structure Alone (history : List (Episode TaskMessage)) (message : TaskMessage)
    (awaiting executing : Multiset TaskMessage) (store : Store) (others : List TaskMessage) :
    Prop where
  owned : (↑others : Multiset TaskMessage) = awaiting + executing
  alive : store.alive = message ::ₘ ({ store with inProgress := others } : Store).alive
  elsewhere : ∀ version ∈ ({ store with inProgress := others } : Store).alive,
    version.id ≠ message.id
  undead : ∀ version ∈ store.dead, version.id ≠ message.id
  undone : message.id ∉ completed history
  enqueued : message.id ∈ idsOf (enqueued history)

theorem reported_alone (accounted : Accounted history ⟨awaiting, {message} + executing, store⟩)
    (distinct : (idsOf (enqueued history)).Nodup) {found : TaskMessage}
    {others : List TaskMessage} (same : found.id = message.id)
    (taken : store.inProgress.Perm (found :: others)) :
    Alone history message awaiting executing store others := by
  obtain ⟨stored, apart⟩ := ids_apart accounted distinct
  have owned : (↑store.inProgress : Multiset TaskMessage) = awaiting + ({message} + executing) :=
    accounted.owned
  have present : message ∈ store.alive := by
    apply Multiset.mem_of_le store.in_progress_le_alive
    rw [owned]
    simp
  -- The report names an identifier only; as all are distinct, it can mean no other entry.
  have one : found = message := by
    apply Multiset.inj_on_of_nodup_map (Store.alive_nodup stored) _ _ _ present same
    rw [alive_around taken]
    exact Multiset.mem_cons_self _ _
  subst one
  have alive := alive_around taken
  have inStore : found.id ∈ store.ids := by
    rw [Store.ids_eq_alive_and_dead]
    exact Multiset.mem_add.mpr (.inl (Multiset.mem_map_of_mem _ present))
  have ids : store.ids.Nodup := stored
  rw [Store.ids_eq_alive_and_dead, alive, Multiset.map_cons, Multiset.cons_add,
    Multiset.nodup_cons, Multiset.mem_add, not_or] at ids
  constructor
  case owned =>
    rw [Multiset.coe_eq_coe.mpr taken, ← Multiset.cons_coe, ← Multiset.singleton_add,
      add_left_comm] at owned
    exact add_left_cancel owned
  case alive => exact alive
  case elsewhere =>
    intro version member own
    apply ids.1.1
    rw [← own]
    exact Multiset.mem_map_of_mem _ member
  case undead =>
    intro version member own
    exact ids.1.2 (mem_ids_of.mpr ⟨version, member, own⟩)
  case undone => exact apart _ inStore
  case enqueued =>
    rw [← accounted.conserved]
    exact Multiset.mem_add.mpr (.inl inStore)

theorem other_failure (result : Except TaskError Unit) {id : TaskId} (other : id ≠ message.id) :
    (Episode.concluded message result).failureOf? id = none := by
  cases result with
  | ok => rfl
  | error error => exact if_neg (Ne.symm other)

theorem results_after_conclusion (result : Except TaskError Unit) (id : TaskId) :
    results id (history ++ [.concluded message result]) =
      results id history
        ++ if message.id = id then [result.mapError TaskError.message] else [] := by
  rw [results_concat]
  simp only [Episode.resultOf?]
  split <;> rfl

/-- A conclusion makes one execution less that is under way, and one result more. -/
theorem executed_after_conclusion
    (accounted : Accounted history ⟨awaiting, {message} + executing, store⟩)
    (result : Except TaskError Unit) (id : TaskId) :
    executions id (history ++ [.concluded message result]) =
      (results id (history ++ [.concluded message result])).length
        + (executing.map TaskMessage.id).count id := by
  have before := accounted.executed id
  simp only [Multiset.map_add, Multiset.map_singleton, Multiset.count_add,
    Multiset.count_singleton, eq_comm (a := id)] at before
  rw [executions_concat, results_after_conclusion, List.length_append, before]
  simp only [Episode.isCallOf, Bool.false_eq_true, if_false]
  split <;> simp only [List.length_cons, List.length_nil] <;> omega

theorem known_after_conclusion
    (accounted : Accounted history ⟨awaiting, {message} + executing, store⟩)
    {others : List TaskMessage}
    (alone : Alone history message awaiting executing store others)
    (result : Except TaskError Unit) (id : TaskId)
    (something : results id (history ++ [.concluded message result]) ≠ []) :
    id ∈ idsOf (enqueued (history ++ [.concluded message result])) := by
  have sameEnqueued : enqueued (history ++ [.concluded message result]) = enqueued history :=
    (enqueued_concat _ _).trans (List.append_nil _)
  rw [sameEnqueued]
  by_cases own : message.id = id
  · rw [← own]
    exact alone.enqueued
  · rw [results_after_conclusion, if_neg own, List.append_nil] at something
    exact accounted.known id something

theorem ids_around {others : List TaskMessage}
    (alone : Alone history message awaiting executing store others) :
    store.ids = message.id ::ₘ ({ store with inProgress := others } : Store).ids := by
  rw [Store.ids_eq_alive_and_dead, Store.ids_eq_alive_and_dead, alone.alive, Multiset.map_cons,
    Multiset.cons_add]

theorem accounted_after_completion
    (accounted : Accounted history ⟨awaiting, {message} + executing, store⟩)
    {others : List TaskMessage}
    (alone : Alone history message awaiting executing store others) :
    Accounted (history ++ [.concluded message (.ok ())])
      ⟨awaiting, executing,
        ({ store with inProgress := others } : Store).file message .complete⟩ := by
  have sameEnqueued : enqueued (history ++ [.concluded message (.ok ())]) = enqueued history :=
    (enqueued_concat _ _).trans (List.append_nil _)
  have oneMore : completed (history ++ [.concluded message (.ok ())]) =
      completed history ++ [message.id] := completed_concat _ _
  have sameFailures (id : TaskId) :
      failures id (history ++ [.concluded message (.ok ())]) = failures id history :=
    (failures_concat _ _ _).trans (List.append_nil _)
  have aliveOfOthers {version : TaskMessage}
      (member : version ∈ ({ store with inProgress := others } : Store).alive) :
      version ∈ store.alive := by
    rw [alone.alive]
    exact Multiset.mem_cons_of_mem member
  constructor
  case owned => exact alone.owned
  case conserved =>
    have filed := Store.ids_after_file message { store with inProgress := others } .complete
    rw [← ids_around alone] at filed
    rw [sameEnqueued, oneMore, ← accounted.conserved, ← Multiset.coe_add,
      Multiset.coe_singleton, ← add_assoc, add_right_comm]
    exact congrArg (· + _) filed
  case counted =>
    rw [oneMore, List.length_append, ← accounted.counted]
    rfl
  case known => exact known_after_conclusion accounted alone _
  case executed => exact executed_after_conclusion accounted _
  case concluded =>
    intro id
    have form := accounted.concluded id
    rw [results_after_conclusion, sameFailures, oneMore, form]
    by_cases own : message.id = id
    · have undone : id ∉ completed history := by
        rw [← own]
        exact alone.undone
      simp [own, undone, Except.mapError]
    · simp [own, Ne.symm own]
  case alive =>
    intro version member
    exact (accounted.alive version (aliveOfOthers member)).unaffected rfl
  case dead =>
    intro version member
    exact (accounted.dead version member).unaffected rfl
  case done =>
    intro id member
    rw [oneMore] at member
    rcases List.mem_append.mp member with earlier | now
    · obtain ⟨version, own, traced⟩ := accounted.done id earlier
      exact ⟨version, own, traced.unaffected rfl⟩
    · have present : message ∈ store.alive := by
        rw [alone.alive]
        exact Multiset.mem_cons_self _ _
      refine ⟨message, (List.mem_singleton.mp now).symm, ?_⟩
      exact (accounted.alive message present).unaffected rfl

theorem accounted_after_failure
    (accounted : Accounted history ⟨awaiting, {message} + executing, store⟩)
    {others : List TaskMessage}
    (alone : Alone history message awaiting executing store others) (error : TaskError)
    (report : Report)
    (fitting : (∃ retryAt, report = .retry retryAt ∧ 0 < message.retriesLeft) ∨
      (report = .kill ∧ message.retriesLeft = 0)) :
    Accounted (history ++ [.concluded message (.error error)])
      ⟨awaiting, executing,
        ({ store with inProgress := others } : Store).file
          (message.afterFailure error.message) report⟩ := by
  have sameEnqueued : enqueued (history ++ [.concluded message (.error error)]) =
      enqueued history := (enqueued_concat _ _).trans (List.append_nil _)
  have sameCompleted : completed (history ++ [.concluded message (.error error)]) =
      completed history := (completed_concat _ _).trans (List.append_nil _)
  have kept : report.leaving (message.afterFailure error.message).id = 0 ∧
      report.finished = 0 := by
    rcases fitting with ⟨retryAt, rfl, _⟩ | ⟨rfl, _⟩ <;> exact ⟨rfl, rfl⟩
  have traced : TracedTo history (· ≤ ·) message := by
    apply accounted.alive message
    rw [alone.alive]
    exact Multiset.mem_cons_self _ _
  have ownFailure : (Episode.concluded message (.error error)).failureOf? message.id =
      some error.message := if_pos rfl
  constructor
  case owned =>
    rw [Store.in_progress_after_file]
    exact alone.owned
  case conserved =>
    have filed := Store.ids_after_file (message.afterFailure error.message)
      { store with inProgress := others } report
    rw [kept.1, add_zero, TaskMessage.after_failure_id, ← ids_around alone] at filed
    rw [sameEnqueued, sameCompleted, filed]
    exact accounted.conserved
  case counted =>
    rw [sameCompleted, Store.done_after_file, kept.2]
    exact accounted.counted
  case known => exact known_after_conclusion accounted alone _
  case executed => exact executed_after_conclusion accounted _
  case concluded =>
    intro id
    have form := accounted.concluded id
    rw [results_after_conclusion, failures_concat, sameCompleted, form]
    by_cases own : message.id = id
    · have undone : id ∉ completed history := by
        rw [← own]
        exact alone.undone
      simp [own, undone, Except.mapError, Episode.failureOf?]
    · rw [if_neg own, other_failure _ (Ne.symm own), Option.toList_none, List.append_nil,
        List.append_nil]
  case alive =>
    intro version member
    rw [Store.alive_after_file, Multiset.mem_add] at member
    rcases member with renewed | other
    · rcases fitting with ⟨retryAt, rfl, left⟩ | ⟨rfl, _⟩
      · rw [Multiset.mem_singleton.mp renewed]
        apply traced.failed ownFailure
        intro failed limit within remaining
        omega
      · exact absurd renewed (Multiset.notMem_zero _)
    · have present : version ∈ store.alive := by
        rw [alone.alive]
        exact Multiset.mem_cons_of_mem other
      exact (accounted.alive version present).unaffected
        (other_failure _ (alone.elsewhere version other))
  case dead =>
    intro version member
    rw [Store.dead_after_file, List.mem_append] at member
    rcases member with before | buried
    · exact (accounted.dead version before).unaffected
        (other_failure _ (alone.undead version before))
    · rcases fitting with ⟨retryAt, rfl, _⟩ | ⟨rfl, exhausted⟩
      · exact absurd buried List.not_mem_nil
      · rw [List.mem_singleton.mp buried]
        apply traced.failed ownFailure
        intro failed limit within remaining
        omega
  case done =>
    intro id member
    rw [sameCompleted] at member
    obtain ⟨version, rfl, done⟩ := accounted.done id member
    refine ⟨version, rfl, done.unaffected (other_failure _ ?_)⟩
    intro own
    apply alone.undone
    rw [← own]
    exact member

/-- While identifiers are distinct, every step keeps the accounts. -/
theorem accounted_after_step {episode : Option (Episode TaskMessage)}
    (step : HoldingStep holdings episode next)
    (distinct : (idsOf (enqueued (history ++ episode.toList))).Nodup)
    (accounted : Accounted history holdings) :
    Accounted (history ++ episode.toList) next := by
  have distinctBefore := Multiset.nodup_of_le (enqueued_le history episode.toList) distinct
  cases step with
  | still =>
      rw [Option.toList_none, List.append_nil]
      exact accounted
  | enqueued message =>
      apply accounted_after_enqueue accounted
      have oneMore : enqueued (history ++ [.outside message]) = enqueued history ++ [message] :=
        enqueued_concat _ _
      rw [Option.toList_some, oneMore, ids_of_append] at distinct
      intro known
      exact Multiset.disjoint_left.mp (Multiset.nodup_add.mp distinct).2.2 known
        (mem_ids_of.mpr ⟨message, List.mem_singleton_self _, rfl⟩)
  | looked wall =>
      rw [Option.toList_none, List.append_nil]
      exact accounted_after_look accounted wall
  | called message => exact accounted_after_call accounted
  | completed same taken =>
      exact accounted_after_completion accounted
        (reported_alone accounted distinctBefore same taken)
  | retried same taken error retryAt left =>
      exact accounted_after_failure accounted
        (reported_alone accounted distinctBefore same taken) error _ (.inl ⟨retryAt, rfl, left⟩)
  | killed same taken error exhausted =>
      exact accounted_after_failure accounted
        (reported_alone accounted distinctBefore same taken) error _ (.inr ⟨rfl, exhausted⟩)
  | restored =>
      rw [Option.toList_none, List.append_nil]
      exact accounted_after_restore accounted

def Finished (history : List (Episode TaskMessage)) (store : Store) (id : TaskId) : Prop :=
  id ∈ idsOf store.dead ∨ id ∈ completed history

theorem Finished.grows {id : TaskId} {later : Store} (finished : Finished history store id)
    (dead : store.dead <+: later.dead) (more : List (Episode TaskMessage)) :
    Finished (history ++ more) later id := by
  rcases finished with buried | done
  · left
    obtain ⟨entry, member, own⟩ := mem_ids_of.mp buried
    exact mem_ids_of.mpr ⟨entry, dead.subset member, own⟩
  · right
    unfold completed
    rw [List.filterMap_append]
    exact List.mem_append_left _ done

/-- What waits for its execution is not finished. -/
theorem awaited_unfinished (accounted : Accounted history holdings)
    (distinct : (idsOf (enqueued history)).Nodup) (member : message ∈ holdings.awaiting) :
    ¬ Finished history holdings.store message.id := by
  obtain ⟨stored, apart⟩ := ids_apart accounted distinct
  have alive : message ∈ holdings.store.alive := by
    apply Multiset.mem_of_le holdings.store.in_progress_le_alive
    rw [accounted.owned]
    exact Multiset.mem_add.mpr (.inl member)
  have among : message.id ∈ holdings.store.alive.map TaskMessage.id :=
    Multiset.mem_map_of_mem _ alive
  rw [Store.ids_eq_alive_and_dead] at stored apart
  intro finished
  rcases finished with buried | done
  · exact Multiset.disjoint_left.mp (Multiset.nodup_add.mp stored).2.2 among buried
  · exact apart _ (Multiset.mem_add.mpr (.inl among)) done

/-- What is finished stays finished, and its handler is not called. -/
theorem finished_after_step {episode : Option (Episode TaskMessage)} {id : TaskId}
    (step : HoldingStep holdings episode next) (accounted : Accounted history holdings)
    (distinct : (idsOf (enqueued history)).Nodup)
    (finished : Finished history holdings.store id) :
    Finished (history ++ episode.toList) next.store id ∧ executions id episode.toList = 0 := by
  cases step with
  | still | enqueued | restored => exact ⟨finished.grows List.prefix_rfl _, rfl⟩
  | @looked _ _ store wall =>
      have kept : store.dead <+: (store.fetch wall).2.dead :=
        ⟨[], by rw [List.append_nil, Store.dead_after_fetch]⟩
      exact ⟨finished.grows kept _, rfl⟩
  | @called awaiting _ _ message =>
      refine ⟨finished.grows List.prefix_rfl _, ?_⟩
      have first : message ∈ {message} + awaiting := by simp
      have other : message.id ≠ id := by
        intro own
        rw [← own] at finished
        exact awaited_unfinished accounted distinct first finished
      simp [executions, Episode.isCallOf, other]
  | completed | retried | killed =>
      refine ⟨finished.grows ?_ _, rfl⟩
      rw [Store.dead_after_file]
      exact List.prefix_append _ _

end Steps

end TaskDispatch
