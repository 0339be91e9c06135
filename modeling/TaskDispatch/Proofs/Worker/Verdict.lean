import TaskDispatch.Proofs.Worker.Retries

/-!
# The verdict on a message

Whether a message is completed or given up depends on the outcomes of its executions alone: the
first success within its limit decides, whatever the concurrency, the timeouts, the delays and the
interleaving were. So two runs over the same messages and outcomes that both come to rest agree.
-/

namespace TaskDispatch

set_option autoImplicit false

open History

/-- The executions of every message have gone as its outcomes say, which are counted from one. As
the executions of one message do not overlap, the n-th result is that of the n-th execution. -/
def Follows (outcome : TaskId → Nat → Except String Unit) (history : List (Episode TaskMessage)) :
    Prop :=
  ∀ id, results id history =
    (List.range (results id history).length).map fun earlier => outcome id (earlier + 1)

/-- So many executions are made of a message with these outcomes: up to the first success, or to the
limit. -/
structure Decided (outcome : Nat → Except String Unit) (limit executed : Nat) : Prop where
  positive : 1 ≤ executed
  within : executed ≤ limit
  failed : ∀ k, 1 ≤ k → k < executed → outcome k ≠ .ok ()
  last : outcome executed = .ok () ∨ executed = limit

namespace Decided

variable {outcome : Nat → Except String Unit} {limit left right executed : Nat}

theorem not_less (first : Decided outcome limit left) (second : Decided outcome limit right) :
    ¬ left < right := by
  intro less
  -- The fewer executions end with a success, which the others would have met, or at the limit.
  rcases first.last with succeeded | exhausted
  · exact second.failed left first.positive less succeeded
  · have within := second.within
    omega

theorem unique (first : Decided outcome limit left) (second : Decided outcome limit right) :
    left = right :=
  Nat.le_antisymm (Nat.not_lt.mp (second.not_less first)) (Nat.not_lt.mp (first.not_less second))

/-- The last execution succeeded exactly if some execution within the limit does. -/
theorem succeeded_iff (decided : Decided outcome limit executed) :
    outcome executed = .ok () ↔ ∃ k, 1 ≤ k ∧ k ≤ limit ∧ outcome k = .ok () := by
  constructor
  · intro succeeded
    exact ⟨executed, decided.positive, decided.within, succeeded⟩
  · rintro ⟨k, positive, within, succeeded⟩
    rcases decided.last with last | exhausted
    · exact last
    · rcases Nat.lt_or_ge k executed with earlier | later
      · exact absurd succeeded (decided.failed k positive earlier)
      · have same : k = executed := by omega
        rw [← same]
        exact succeeded

end Decided

section Settled

variable {outcome : TaskId → Nat → Except String Unit} {history : List (Episode TaskMessage)}
  {holdings : Holdings} {original : TaskMessage}

structure SettledAccounts (outcome : TaskId → Nat → Except String Unit)
    (history : List (Episode TaskMessage)) (holdings : Holdings) : Prop where
  accounted : Accounted history holdings
  distinct : (idsOf (enqueued history)).Nodup
  follows : Follows outcome history
  idle : holdings.store.alive = 0

theorem settled_executions (settled : SettledAccounts outcome history holdings) (id : TaskId) :
    executions id history = (results id history).length := by
  have owned := settled.accounted.owned
  have nothing : (↑holdings.store.inProgress : Multiset TaskMessage) = 0 := by
    apply Multiset.le_zero.mp
    rw [← settled.idle]
    exact holdings.store.in_progress_le_alive
  rw [nothing] at owned
  have noneExecuting : holdings.executing = 0 := (add_eq_zero.mp owned.symm).2
  rw [settled.accounted.executed id, noneExecuting]
  rfl

/-- What has come to rest is dead or completed, and not both. -/
theorem settled_apart (settled : SettledAccounts outcome history holdings)
    (member : original ∈ enqueued history) :
    original.id ∈ idsOf holdings.store.dead ↔ original.id ∉ completed history := by
  have conserved := settled.accounted.conserved
  rw [Store.ids_eq_alive_and_dead, settled.idle, Multiset.map_zero, zero_add] at conserved
  have distinct := settled.distinct
  rw [← conserved] at distinct
  constructor
  · intro dead done
    exact Multiset.disjoint_left.mp (Multiset.nodup_add.mp distinct).2.2 dead
      (Multiset.mem_coe.mpr done)
  · intro undone
    have among : original.id ∈ idsOf (enqueued history) := mem_ids_of.mpr ⟨original, member, rfl⟩
    rw [← conserved, Multiset.mem_add] at among
    exact among.resolve_right undone

theorem outcome_at (settled : SettledAccounts outcome history holdings) {id : TaskId} {k : Nat}
    (positive : 1 ≤ k) (within : k ≤ executions id history) :
    (results id history)[k - 1]? = some (outcome id k) := by
  rw [settled_executions settled] at within
  rw [settled.follows id, List.getElem?_map, List.getElem?_range (by omega), Option.map_some,
    Nat.sub_add_cancel positive]

/-- The outcomes before a success, or before the end, are the failures that were reported. -/
theorem failed_outcome (settled : SettledAccounts outcome history holdings) {id : TaskId} {k : Nat}
    (positive : 1 ≤ k) (within : k ≤ (failures id history).length) :
    ∃ text, (failures id history)[k - 1]? = some text ∧ outcome id k = .error text := by
  have form := settled.accounted.concluded id
  have enough : k ≤ executions id history := by
    rw [settled_executions settled, form, List.length_append, List.length_map]
    omega
  have reported := outcome_at settled positive enough
  have present : k - 1 < (failures id history).length := by omega
  rw [form, List.getElem?_append_left (by rw [List.length_map]; exact present),
    List.getElem?_map, List.getElem?_eq_getElem present, Option.map_some,
    Option.some.injEq] at reported
  exact ⟨_, List.getElem?_eq_getElem present, reported.symm⟩

theorem completed_decided (settled : SettledAccounts outcome history holdings)
    (member : original ∈ enqueued history) (done : original.id ∈ completed history) :
    Decided (outcome original.id) (original.retriesLeft + 1) (executions original.id history) ∧
      outcome original.id (executions original.id history) = .ok () := by
  have form := settled.accounted.concluded original.id
  rw [if_pos done] at form
  obtain ⟨version, own, traced⟩ := settled.accounted.done original.id done
  have within := (traced.original settled.distinct member own).2
  have count : executions original.id history = (failures original.id history).length + 1 := by
    rw [settled_executions settled, form, List.length_append, List.length_map,
      List.length_singleton]
  have succeeded : outcome original.id (executions original.id history) = .ok () := by
    have reported := outcome_at settled (by omega) (le_refl (executions original.id history))
    have last : (results original.id history)[executions original.id history - 1]? =
        some (.ok ()) := by
      rw [form, count]
      simp
    rw [last] at reported
    exact (Option.some.inj reported).symm
  refine ⟨?_, succeeded⟩
  constructor
  · omega
  · omega
  · intro k positive earlier
    have among : k ≤ (failures original.id history).length := by omega
    obtain ⟨text, _, failed⟩ := failed_outcome settled positive among
    rw [failed]
    exact fun same => by cases same
  · exact .inl succeeded

theorem dead_decided (settled : SettledAccounts outcome history holdings)
    (member : original ∈ enqueued history) (undone : original.id ∉ completed history) :
    Decided (outcome original.id) (original.retriesLeft + 1) (executions original.id history) ∧
      executions original.id history = original.retriesLeft + 1 ∧
      (failures original.id history).length = original.retriesLeft + 1 ∧
      outcome original.id (executions original.id history) ≠ .ok () := by
  have form := settled.accounted.concluded original.id
  rw [if_neg undone, List.append_nil] at form
  obtain ⟨entry, dead, own⟩ := mem_ids_of.mp ((settled_apart settled member).mpr undone)
  have beyond := ((settled.accounted.dead entry dead).original settled.distinct member own).2
  have count : executions original.id history = (failures original.id history).length := by
    rw [settled_executions settled, form, List.length_map]
  have allFailed (k : Nat) (positive : 1 ≤ k) (within : k ≤ executions original.id history) :
      outcome original.id k ≠ .ok () := by
    rw [count] at within
    obtain ⟨text, _, failed⟩ := failed_outcome settled positive within
    rw [failed]
    exact fun same => by cases same
  refine ⟨?_, count.trans beyond, beyond, allFailed _ (by omega) (le_refl _)⟩
  constructor
  · omega
  · omega
  · intro k positive earlier
    exact allFailed k positive (Nat.le_of_lt earlier)
  · exact .inr (count.trans beyond)

theorem settled_decided (settled : SettledAccounts outcome history holdings)
    (member : original ∈ enqueued history) :
    Decided (outcome original.id) (original.retriesLeft + 1) (executions original.id history) ∧
      (original.id ∈ completed history ↔
        outcome original.id (executions original.id history) = .ok ()) := by
  by_cases done : original.id ∈ completed history
  · obtain ⟨decided, succeeded⟩ := completed_decided settled member done
    exact ⟨decided, by simp [done, succeeded]⟩
  · obtain ⟨decided, _, _, failed⟩ := dead_decided settled member done
    exact ⟨decided, by simp [done, failed]⟩

/-- What is completed is completed once. -/
theorem completed_once (settled : SettledAccounts outcome history holdings) :
    (completed history).Nodup := by
  have distinct := settled.distinct
  rw [← settled.accounted.conserved] at distinct
  exact Multiset.coe_nodup.mp (Multiset.nodup_add.mp distinct).2.1

theorem dead_nodup (settled : SettledAccounts outcome history holdings) :
    (holdings.store.dead.map TaskMessage.id).Nodup := by
  have stored := (ids_apart settled.accounted settled.distinct).1
  rw [Store.ids_eq_alive_and_dead] at stored
  exact Multiset.coe_nodup.mp (Multiset.nodup_add.mp stored).2.1

/-- What is dead is the message after so many failures as its limit allows and one more, the last
of which gave it its text. -/
theorem buried_version (settled : SettledAccounts outcome history holdings)
    (member : original ∈ enqueued history) (undone : original.id ∉ completed history) :
    ∃ version text,
      (holdings.store.dead.filter fun entry => entry.id = original.id) = [version] ∧
        version = original.afterFailures (failures original.id history) ∧
        version.retried.toNat = max original.retry.toNat original.retried.toNat ∧
        version.errorMessage = some text ∧
        outcome original.id (original.retriesLeft + 1) = .error text := by
  obtain ⟨_, _, beyond, _⟩ := dead_decided settled member undone
  obtain ⟨version, dead, own⟩ := mem_ids_of.mp ((settled_apart settled member).mpr undone)
  have made := ((settled.accounted.dead version dead).original settled.distinct member own).1
  obtain ⟨text, last, failed⟩ :=
    failed_outcome settled (Nat.le_add_left 1 original.retriesLeft) (le_of_eq beyond.symm)
  refine ⟨version, text, filter_of_distinct (dead_nodup settled) dead own, made, ?_, ?_, failed⟩
  · rw [made, TaskMessage.after_failures_retried, beyond]
    unfold TaskMessage.retriesLeft
    omega
  · have atEnd : (failures original.id history).getLast? = some text := by
      rw [List.getLast?_eq_getElem?, beyond]
      exact last
    rw [made, TaskMessage.after_failures_rest]
    simp only [atEnd, Option.some_or]

end Settled

section TwoRuns

variable {outcome : TaskId → Nat → Except String Unit}
  {history other : List (Episode TaskMessage)} {holdings others : Holdings}

theorem same_executions (first : SettledAccounts outcome history holdings)
    (second : SettledAccounts outcome other others)
    (same : (enqueued history).Perm (enqueued other)) (id : TaskId) :
    executions id history = executions id other := by
  by_cases known : id ∈ idsOf (enqueued history)
  · obtain ⟨original, member, rfl⟩ := mem_ids_of.mp known
    exact (settled_decided first member).1.unique
      (settled_decided second (same.mem_iff.mp member)).1
  · have unknown : id ∉ idsOf (enqueued other) := by
      rw [← ids_of_perm same]
      exact known
    rw [settled_executions first, settled_executions second,
      (no_results_without_enqueue first.accounted known).1,
      (no_results_without_enqueue second.accounted unknown).1]

theorem same_completion (first : SettledAccounts outcome history holdings)
    (second : SettledAccounts outcome other others)
    (same : (enqueued history).Perm (enqueued other)) {original : TaskMessage}
    (member : original ∈ enqueued history) :
    original.id ∈ completed history ↔ original.id ∈ completed other := by
  rw [(settled_decided first member).2, (settled_decided second (same.mem_iff.mp member)).2,
    same_executions first second same]

theorem same_failures (first : SettledAccounts outcome history holdings)
    (second : SettledAccounts outcome other others)
    (same : (enqueued history).Perm (enqueued other)) {original : TaskMessage}
    (member : original ∈ enqueued history) :
    failures original.id history = failures original.id other := by
  have resultsSame : results original.id history = results original.id other := by
    rw [first.follows, second.follows, ← settled_executions first, ← settled_executions second,
      same_executions first second same]
  rw [first.accounted.concluded, second.accounted.concluded] at resultsSame
  simp only [same_completion first second same member] at resultsSame
  have texts := List.append_cancel_right resultsSame
  apply List.map_injective_iff.mpr _ texts
  intro left right sameError
  exact Except.error.inj sameError

theorem dead_carried_over (first : SettledAccounts outcome history holdings)
    (second : SettledAccounts outcome other others)
    (same : (enqueued history).Perm (enqueued other)) {version : TaskMessage}
    (dead : version ∈ holdings.store.dead) : version ∈ others.store.dead := by
  obtain ⟨original, member, made, _⟩ := first.accounted.dead version dead
  have own : version.id = original.id := by
    rw [made, TaskMessage.after_failures_id]
  have undone : original.id ∉ completed other := by
    rw [← same_completion first second same member]
    apply (settled_apart first member).mp
    exact mem_ids_of.mpr ⟨version, dead, own⟩
  have there := same.mem_iff.mp member
  obtain ⟨buried, _, alone, madeThere, _⟩ := buried_version second there undone
  have one : version = buried := by
    rw [made, madeThere, same_failures first second same member]
  have among : buried ∈ others.store.dead.filter fun entry => entry.id = original.id := by
    rw [alone]
    exact List.mem_singleton_self _
  rw [one]
  exact List.mem_of_mem_filter among

theorem same_dead (first : SettledAccounts outcome history holdings)
    (second : SettledAccounts outcome other others)
    (same : (enqueued history).Perm (enqueued other)) :
    holdings.store.dead.Perm others.store.dead := by
  rw [List.perm_ext_iff_of_nodup ((dead_nodup first).of_map _) ((dead_nodup second).of_map _)]
  intro version
  exact ⟨dead_carried_over first second same, dead_carried_over second first same.symm⟩

theorem same_done (first : SettledAccounts outcome history holdings)
    (second : SettledAccounts outcome other others)
    (same : (enqueued history).Perm (enqueued other)) :
    holdings.store.done = others.store.done := by
  have total {history : List (Episode TaskMessage)} {holdings : Holdings}
      (settled : SettledAccounts outcome history holdings) :
      holdings.store.dead.length + holdings.store.done = (enqueued history).length := by
    have conserved := settled.accounted.conserved
    rw [Store.ids_eq_alive_and_dead, settled.idle, Multiset.map_zero, zero_add] at conserved
    have sizes := congrArg Multiset.card conserved
    rw [Multiset.card_add, ids_of_card, ids_of_card, Multiset.coe_card,
      ← settled.accounted.counted] at sizes
    exact sizes
  have here := total first
  have there := total second
  have dead := (same_dead first second same).length_eq
  have all := same.length_eq
  omega

end TwoRuns

section Runs

variable {η : Type} {handler : Handler η} {index : Nat} {history : List (Episode TaskMessage)}
  {service : Service (MemoryQueue Party) η} {outcome : TaskId → Nat → Except String Unit}

theorem solo_run_settled (run : SoloRun handler index history service)
    (distinct : (idsOf (enqueued history)).Nodup) (follows : Follows outcome history)
    (settled : service.shared.backend.store.counts.isSettled = true) :
    SettledAccounts outcome history service.holdings := by
  obtain ⟨policy, _, keeps⟩ := solo_run_keeps_accounts run distinct
  simp only [QueueCounts.isSettled, Store.counts, Bool.and_eq_true, decide_eq_true_eq,
    List.length_eq_zero_iff] at settled
  obtain ⟨⟨pending, inProgress⟩, scheduled⟩ := settled
  have idle : service.shared.backend.store.alive = 0 := by
    rw [Store.alive, pending, inProgress, scheduled]
    rfl
  exact { accounted := keeps.accounted, distinct := distinct, follows := follows, idle := idle }

/-- When a run has come to rest, the outcomes alone have decided about every message. If one of the
executions that its limit allows succeeds, the message has been completed once, with the first
success; otherwise it is dead, after all executions that its limit allows and with the text of the
last one. So another run over the same messages and outcomes, whatever its processor, its policy and
its interleaving, comes to rest with the same completions, executions and dead messages. -/
theorem verdict_is_independent_of_scheduling (run : SoloRun handler index history service)
    (distinct : (idsOf (enqueued history)).Nodup) (follows : Follows outcome history)
    (settled : service.shared.backend.store.counts.isSettled = true) :
    let store := service.shared.backend.store
    (∀ original ∈ enqueued history,
      let limit := original.retry.toNat - original.retried.toNat + 1
      let succeeds := ∃ k, 1 ≤ k ∧ k ≤ limit ∧ outcome original.id k = .ok ()
      let executed := executions original.id history
      ((completed history).count original.id = 1 ↔ succeeds) ∧
        (succeeds →
          original.id ∉ idsOf store.dead ∧ 1 ≤ executed ∧ executed ≤ limit ∧
            outcome original.id executed = .ok () ∧
            ∀ k, 1 ≤ k → k < executed → outcome original.id k ≠ .ok ()) ∧
        (¬ succeeds →
          (completed history).count original.id = 0 ∧ executed = limit ∧
            ∃ version text,
              (store.dead.filter fun entry => entry.id = original.id) = [version] ∧
                version.retried.toNat = max original.retry.toNat original.retried.toNat ∧
                version.errorMessage = some text ∧
                outcome original.id limit = .error text)) ∧
      ∀ {η' : Type} {handler' : Handler η'} {index' : Nat}
          {history' : List (Episode TaskMessage)} {service' : Service (MemoryQueue Party) η'},
        SoloRun handler' index' history' service' →
          (enqueued history').Perm (enqueued history) → Follows outcome history' →
            service'.shared.backend.store.counts.isSettled = true →
              service'.shared.backend.store.done = store.done ∧
                (∀ id, executions id history' = executions id history) ∧
                service'.shared.backend.store.dead.Perm store.dead := by
  intro store
  have here := solo_run_settled run distinct follows settled
  constructor
  · intro original member limit succeeds executed
    obtain ⟨decided, completedIff⟩ := settled_decided here member
    have succeededIff : original.id ∈ completed history ↔ succeeds :=
      completedIff.trans decided.succeeded_iff
    refine ⟨?_, ?_, ?_⟩
    · rw [← succeededIff]
      constructor
      · intro once
        exact List.count_pos_iff.mp (by omega)
      · intro done
        exact List.count_eq_one_of_mem (completed_once here) done
    · intro success
      have done := succeededIff.mpr success
      have undead : original.id ∉ idsOf store.dead := fun dead =>
        (settled_apart here member).mp dead done
      exact
        ⟨undead, decided.positive, decided.within, completedIff.mp done, decided.failed⟩
    · intro failure
      have undone : original.id ∉ completed history := fun done => failure (succeededIff.mp done)
      obtain ⟨_, exhausted, _⟩ := dead_decided here member undone
      obtain ⟨version, text, alone, _, retried, error, last⟩ := buried_version here member undone
      exact
        ⟨List.count_eq_zero.mpr undone, exhausted, version, text, alone, retried, error, last⟩
  · intro η' handler' index' history' service' run' same follows' settled'
    have distinct' : (idsOf (enqueued history')).Nodup := by
      rw [ids_of_perm same]
      exact distinct
    have there := solo_run_settled run' distinct' follows' settled'
    exact
      ⟨same_done there here same, same_executions there here same, same_dead there here same⟩

end Runs

namespace Rehearsal

def working : List (Move TaskMessage) :=
  [.loop .told now, .loop .told now, .loop .told now, .runner 0 0 now, .runner 0 0 now,
    .runner 0 0 now, .runner 0 0 now, .loop .told now, .loop .told now, .loop .told now,
    .runner 1 0 now, .runner 1 0 now, .runner 1 0 now]

def early : List (Move TaskMessage) := [.outside message, .outside second, .start now] ++ working

def late : List (Move TaskMessage) := [.start now, .outside second, .outside message] ++ working

def failing : TaskId → Nat → Except String Unit := fun _ _ => .error "panic: unknown panic payload"

def failed (messages : List TaskMessage) : List (Episode TaskMessage) :=
  messages.map Episode.outside
    ++ messages.flatMap fun message =>
      [.called message, .concluded message (.error (.panicked "unknown panic payload"))]

theorem follows_failing (messages : List TaskMessage) : Follows failing (failed messages) := by
  intro id
  have all : ∀ result ∈ results id (failed messages),
      result = .error "panic: unknown panic payload" := by
    intro result member
    obtain ⟨episode, present, reported⟩ := List.mem_filterMap.mp member
    rcases List.mem_append.mp present with enqueued | executed
    · obtain ⟨message, _, rfl⟩ := List.mem_map.mp enqueued
      cases reported
    · obtain ⟨message, _, among⟩ := List.mem_flatMap.mp executed
      rcases List.mem_cons.mp among with rfl | last
      · cases reported
      · rw [List.mem_singleton.mp last] at reported
        simp only [Episode.resultOf?, Option.ite_none_right_eq_some, Option.some.injEq] at reported
        rw [← reported.2]
        rfl
  rw [List.eq_replicate_iff.mpr ⟨rfl, all⟩, List.length_replicate]
  simp [failing]

end Rehearsal

open Rehearsal in
theorem rehearsal_verdict_is_independent :
    ∃ (last last' : Service (MemoryQueue Party) Unit) (version : TaskMessage),
      SoloRun handler 0 (failed [message, second]) last ∧
        SoloRun handler 0 (failed [second, message]) last' ∧
        executions message.id (failed [message, second]) = 0 + 1 ∧
        (last.shared.backend.store.dead.filter fun entry => entry.id = message.id) = [version] ∧
        version.errorMessage = some "panic: unknown panic payload" ∧
        last'.shared.backend.store.done = last.shared.backend.store.done ∧
        last'.shared.backend.store.dead.Perm last.shared.backend.store.dead := by
  have ran : ∃ deeds last,
      Service.run (MemoryQueue.setting handler) 0 early
          { processor := processor, shared := shared } = some (deeds, last) ∧
        last.shared.backend.store.counts.isSettled = true := ⟨_, _, rfl, rfl⟩
  have ran' : ∃ deeds last,
      Service.run (MemoryQueue.setting handler) 0 late
          { processor := processor, shared := shared } = some (deeds, last) ∧
        last.shared.backend.store.counts.isSettled = true := ⟨_, _, rfl, rfl⟩
  obtain ⟨_, last, ran, settled⟩ := ran
  obtain ⟨_, last', ran', settled'⟩ := ran'
  have run : SoloRun handler 0 (failed [message, second]) last := solo_run ran
  have run' : SoloRun handler 0 (failed [second, message]) last' := solo_run ran'
  obtain ⟨verdicts, agree⟩ :=
    verdict_is_independent_of_scheduling run (by decide) (follows_failing _) settled
  have never : ¬ ∃ k, 1 ≤ k ∧ k ≤ 0 + 1 ∧ failing message.id k = .ok () := by
    rintro ⟨_, _, _, succeeded⟩
    cases succeeded
  obtain ⟨_, exhausted, version, text, buried, _, error, outcome⟩ :=
    (verdicts message (by decide)).2.2 never
  obtain ⟨done, _, dead⟩ :=
    agree run' (List.Perm.swap _ _ _) (follows_failing _) settled'
  rw [← Except.error.inj outcome] at error
  exact ⟨last, last', version, run, run', exhausted, buried, error, done, dead⟩

end TaskDispatch
