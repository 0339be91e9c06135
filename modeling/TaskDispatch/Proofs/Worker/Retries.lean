import TaskDispatch.Proofs.Worker.Accounts

/-!
# The accounting of retries

The accounts hold along every run of one processor. Main statement: wherever a message is stored,
its counters and its error text are those of its failures, whatever the limits it came with; and
what is dead or completed is never executed again.
-/

namespace TaskDispatch

set_option autoImplicit false

open History

section Runs

variable {η : Type} {handler : Handler η} {index : Nat}

/-- A new processor with a bounded retry policy has come this far on a queue that was empty at first
and to which others only add messages. -/
def SoloRun (handler : Handler η) (index : Nat) (history : List (Episode TaskMessage))
    (service : Service (MemoryQueue Party) η) : Prop :=
  ∃ (policy : RetryPolicy) (config : ProcessorConfig) (processor : Processor (MemoryQueue Party))
    (shared : Shared (MemoryQueue Party) η),
    policy.Bounded ∧
      Processor.new? config (policy.reconcile MemoryQueue.backend) = some processor ∧
      shared.backend.store = .empty ∧
      Chronicle (MemoryQueue.setting handler) index { processor := processor, shared := shared }
        history service

variable {history more : List (Episode TaskMessage)}
  {origin service later : Service (MemoryQueue Party) η} {policy : RetryPolicy}

structure KeepsAccounts (policy : RetryPolicy) (index : Nat)
    (history : List (Episode TaskMessage)) (service : Service (MemoryQueue Party) η) : Prop where
  sound : service.processor.Sound index
  failure : service.processor.failure = policy.reconcile MemoryQueue.backend
  accounted : Accounted history service.holdings

theorem KeepsAccounts.step (keeps : KeepsAccounts policy index history service)
    (bounded : policy.Bounded) {move : Move TaskMessage}
    (moved : service.after? (MemoryQueue.setting handler) index move = some later) :
    HoldingStep service.holdings (service.episode? move) later.holdings := by
  apply move_holdings bounded keeps.sound keeps.failure _ moved
  have owned : (↑service.shared.backend.store.inProgress : Multiset TaskMessage) =
      service.processor.crew.awaiting + service.processor.crew.executing := keeps.accounted.owned
  rw [owned]
  exact Multiset.le_add_left _ _

theorem chronicle_keeps_accounts (bounded : policy.Bounded)
    (keeps : KeepsAccounts policy index history origin)
    (chronicle : Chronicle (MemoryQueue.setting handler) index origin more service)
    (distinct : (idsOf (enqueued (history ++ more))).Nodup) :
    KeepsAccounts policy index (history ++ more) service := by
  induction chronicle with
  | begin =>
      rw [List.append_nil]
      exact keeps
  | @next more service later chronicle move moved ih =>
      rw [← List.append_assoc] at distinct ⊢
      have before := ih (Multiset.nodup_of_le (enqueued_le _ _) distinct)
      have step := service_step_cases moved
      exact
        { sound := Processor.service_step_sound step before.sound
          failure := (service_step_settings step).2.trans before.failure
          accounted := accounted_after_step (before.step bounded moved) distinct before.accounted }

theorem new_processor_keeps_accounts {config : ProcessorConfig}
    {processor : Processor (MemoryQueue Party)} {shared : Shared (MemoryQueue Party) η}
    (created : Processor.new? config (policy.reconcile MemoryQueue.backend) = some processor)
    (empty : shared.backend.store = .empty) (index : Nat) :
    KeepsAccounts policy index [] { processor := processor, shared := shared } := by
  obtain ⟨new, _, failure⟩ := Processor.new_processor_settings created
  have sound : processor.Sound index := Processor.new_processor_sound created
  obtain ⟨idle, alone, _⟩ := sound.inPhase.unstarted new
  have nothing : ({ processor := processor, shared := shared } :
      Service (MemoryQueue Party) η).holdings = ⟨0, 0, .empty⟩ := by
    simp [Service.holdings, Crew.holdings, Crew.awaiting, Crew.executing, Crew.messagesAt, idle,
      alone, empty, LoopStage.held?]
  refine ⟨sound, failure, ?_⟩
  rw [nothing]
  exact accounted_at_first

theorem solo_run_keeps_accounts (run : SoloRun handler index history service)
    (distinct : (idsOf (enqueued history)).Nodup) :
    ∃ policy : RetryPolicy, policy.Bounded ∧ KeepsAccounts policy index history service := by
  obtain ⟨policy, config, processor, shared, bounded, created, empty, chronicle⟩ := run
  have first := new_processor_keeps_accounts created empty index
  exact ⟨policy, bounded, chronicle_keeps_accounts bounded first chronicle distinct⟩

/-- The executions of one message do not overlap, so their reports come in the order of the calls of
the handler. -/
theorem executions_do_not_overlap (run : SoloRun handler index history service)
    (distinct : (idsOf (enqueued history)).Nodup) (id : TaskId) :
    (results id history).length ≤ executions id history ∧
      executions id history ≤ (results id history).length + 1 := by
  obtain ⟨policy, _, keeps⟩ := solo_run_keeps_accounts run distinct
  have accounted := keeps.accounted
  have alone : (service.holdings.executing.map TaskMessage.id).Nodup := by
    apply Multiset.nodup_of_le _ (Store.alive_nodup (ids_apart accounted distinct).1)
    apply Multiset.map_le_map
    apply le_trans _ service.holdings.store.in_progress_le_alive
    rw [accounted.owned]
    exact Multiset.le_add_left _ _
  have once := Multiset.nodup_iff_count_le_one.mp alone id
  have executed := accounted.executed id
  omega

theorem finished_for_good (bounded : policy.Bounded)
    (keeps : KeepsAccounts policy index history service)
    (chronicle : Chronicle (MemoryQueue.setting handler) index service more later)
    (distinct : (idsOf (enqueued (history ++ more))).Nodup) {id : TaskId}
    (finished : Finished history service.shared.backend.store id) :
    Finished (history ++ more) later.shared.backend.store id ∧ executions id more = 0 := by
  induction chronicle with
  | begin =>
      rw [List.append_nil]
      exact ⟨finished, rfl⟩
  | @next more middle later chronicle move moved ih =>
      rw [← List.append_assoc] at distinct ⊢
      have distinctBefore := Multiset.nodup_of_le (enqueued_le _ _) distinct
      obtain ⟨still, uncalled⟩ := ih distinctBefore
      -- The last step may call a handler, but only for a message that waits for its execution.
      have before := chronicle_keeps_accounts bounded keeps chronicle distinctBefore
      obtain ⟨again, silent⟩ :=
        finished_after_step (before.step bounded moved) before.accounted distinctBefore still
      refine ⟨again, ?_⟩
      unfold executions at uncalled silent ⊢
      rw [List.countP_append, uncalled, silent]

/-- Along every run the counters of the messages are exact: a stored message has the fields that it
was enqueued with, but for the text of its latest failure and the count of its retries. Until it is
dead it has been retried as often as it failed, which is at most as often as its limit allows; when
it is dead it has failed once more. The count never overflows, and neither what is dead nor what is
completed is ever executed again. -/
theorem retries_are_accounted (run : SoloRun handler index history service)
    (distinct : (idsOf (enqueued history)).Nodup) :
    let store := service.shared.backend.store
    (∀ original ∈ enqueued history, ∀ version : TaskMessage,
      version ∈ store.alive ∨ version ∈ store.dead → version.id = original.id →
        let failed := failures original.id history
        let limit := original.retry.toNat - original.retried.toNat
        version =
            { original with
              retried := version.retried
              errorMessage := failed.getLast?.or original.errorMessage } ∧
          (version ∉ store.dead →
            version.retried.toNat = original.retried.toNat + failed.length ∧
              failed.length ≤ limit) ∧
          (version ∈ store.dead →
            failed.length = limit + 1 ∧
              version.retried.toNat = max original.retry.toNat original.retried.toNat) ∧
          (version.retryExhausted = false →
            (version.retried + 1).toNat = version.retried.toNat + 1)) ∧
      ∀ (more : List (Episode TaskMessage)) (later : Service (MemoryQueue Party) η),
        Chronicle (MemoryQueue.setting handler) index service more later →
          (idsOf (enqueued (history ++ more))).Nodup →
            ∀ id, id ∈ idsOf store.dead ∨ id ∈ completed history → executions id more = 0 := by
  intro store
  obtain ⟨policy, bounded, keeps⟩ := solo_run_keeps_accounts run distinct
  have accounted := keeps.accounted
  constructor
  · intro original member version stored same failed limit
    have retried (made : version = original.afterFailures failed) :
        version.retried.toNat =
          original.retried.toNat + min failed.length original.retriesLeft := by
      rw [made, TaskMessage.after_failures_retried]
    have left : original.retriesLeft = limit := rfl
    have made : version = original.afterFailures failed := by
      rcases stored with alive | dead
      · exact ((accounted.alive version alive).original distinct member same).1
      · exact ((accounted.dead version dead).original distinct member same).1
    refine ⟨?_, ?_, ?_, ?_⟩
    · rw [made]
      exact original.after_failures_rest failed
    · intro undead
      have alive := stored.resolve_right undead
      have within : failed.length ≤ limit :=
        ((accounted.alive version alive).original distinct member same).2
      have count := retried made
      rw [left, Nat.min_eq_left within] at count
      exact ⟨count, within⟩
    · intro dead
      have beyond : failed.length = limit + 1 :=
        ((accounted.dead version dead).original distinct member same).2
      have count := retried made
      rw [left, beyond] at count
      refine ⟨beyond, ?_⟩
      omega
    · intro unexhausted
      apply TaskMessage.retried_succ
      apply Nat.pos_of_ne_zero
      intro noneLeft
      rw [TaskMessage.exhausted_iff.mpr noneLeft] at unexhausted
      cases unexhausted
  · intro more later chronicle distinctLater id finished
    exact (finished_for_good bounded keeps chronicle distinctLater finished).2

end Runs

theorem Rehearsal.solo_run {moves : List (Move TaskMessage)} {deeds : List (Deed TaskMessage)}
    {last : Service (MemoryQueue Party) Unit}
    (ran : Service.run (MemoryQueue.setting Rehearsal.handler) 0 moves
      { processor := Rehearsal.processor, shared := Rehearsal.shared } = some (deeds, last)) :
    SoloRun Rehearsal.handler 0
      (Service.episodes (MemoryQueue.setting Rehearsal.handler) 0 moves
        { processor := Rehearsal.processor, shared := Rehearsal.shared }) last :=
  ⟨RetryPolicy.default, config, processor, shared, by decide, created, rfl, chronicle_of_run ran⟩

open Rehearsal in
theorem rehearsal_retries_are_accounted :
    ∃ (history : List (Episode TaskMessage)) (last : Service (MemoryQueue Party) Unit)
      (version : TaskMessage),
      SoloRun handler 0 history last ∧ last.shared.backend.store.dead = [version] ∧
        version.errorMessage = some "panic: unknown panic payload" ∧
        (failures message.id history).length = 0 + 1 ∧ version.retried.toNat = 0 ∧
        ∀ (more : List (Episode TaskMessage)) (later : Service (MemoryQueue Party) Unit),
          Chronicle (MemoryQueue.setting handler) 0 last more later →
            (idsOf (enqueued (history ++ more))).Nodup → executions message.id more = 0 := by
  have ran : ∃ last,
      Service.run (MemoryQueue.setting handler) 0 (opening ++ ending)
          { processor := processor, shared := shared } =
        some ([.outside message, .fetched message, .assigned assignment, .reported assignment,
          .released assignment], last) ∧
      last.shared.backend.store.dead =
        [{ message with errorMessage := some "panic: unknown panic payload" }] := ⟨_, rfl, rfl⟩
  obtain ⟨last, ran, dead⟩ := ran
  have run := solo_run ran
  obtain ⟨stored, finished⟩ := retries_are_accounted run (by decide)
  have accounted := stored message (by decide)
    { message with errorMessage := some "panic: unknown panic payload" } (.inr (by simp [dead])) rfl
  have buried := accounted.2.2.1 (by simp [dead])
  refine ⟨_, last, _, run, dead, rfl, buried.1, buried.2, ?_⟩
  intro more later chronicle distinct
  apply finished more later chronicle distinct
  rw [dead]
  exact .inl (mem_ids_of.mpr ⟨_, List.mem_singleton_self _, rfl⟩)

end TaskDispatch
