import TaskDispatch.Proofs.Worker.Ownership

/-!
# Graceful shutdown

A termination waits for the loop and then for every slot. When it returns, no runner is left, and
all that the loop ever fetched has been handed over and reported on, each message once. From then on
the processor does nothing any more, whatever others do.
-/

namespace TaskDispatch

set_option autoImplicit false

section Shutdown

variable {β η α : Type}

/-- The call that terminates a processor returns without an error: its last step has been taken. -/
def Service.TerminationReturns (setting : Setting β η α) (index : Nat)
    (service last : Service β η) : Prop :=
  service.after? setting index .close = some last ∧ last.processor.closing = .idle

structure Processor.ShutDown (deeds : List (Deed α)) (processor : Processor β) : Prop where
  terminated : processor.state = .terminated
  unused : processor.inFlight = 0
  loop_ended : processor.crew.loop.hasEnded = true
  nobody_left : processor.crew.runners = []
  handed_over : deeds.filterMap Deed.fetched? =
    (deeds.filterMap Deed.assigned?).map Assignment.message
  reconciled : (deeds.filterMap Deed.reported?).Perm (deeds.filterMap Deed.assigned?)
  once : (deeds.filterMap Deed.reported?).Nodup

/-- Whatever happens from now on, the processor stays as it is and does not call its backend, and
only others change it. -/
def Service.NeverActs (setting : Setting β η α) (index : Nat) (service : Service β η) : Prop :=
  ∀ (deeds : List (Deed α)) (later : Service β η), Course setting index service deeds later →
    later.processor = service.processor ∧
      (∀ deed ∈ deeds, ∃ action, deed = .outside action) ∧
      ∀ move : Move α,
        later.callsBackend move = false ∧
          ∀ next, later.after? setting index move = some next →
            (∃ action, move = .outside action) ∨ next.shared.backend = later.shared.backend

variable {setting : Setting β η α} {index : Nat}

/-- A terminated processor takes no step. -/
theorem only_others_act {processor later : Processor β} {state next : β}
    {deed : Option (Deed α)} (step : ServiceStep setting index processor state deed later next)
    (terminated : processor.state = .terminated) (rest : processor.AtRest) :
    later = processor ∧ ∀ done ∈ deed, ∃ action, done = .outside action := by
  cases step with
  | refused => exact ⟨rfl, by simp⟩
  | unrestored created | started created =>
      rw [terminated] at created
      cases created
  | dispatched step =>
      have active := (Processor.loop_active step).2.1
      rw [rest.ended] at active
      cases active
  | executed step => exact absurd rest.alone (Processor.runner_present step).1
  | terminating running | dropped running =>
      rw [terminated] at running
      cases running
  | closed step =>
      have unclosed := rest.unclosed
      cases step with
      | joined closing | taken closing | finished closing | given closing | queued closing =>
          rw [closing] at unclosed
          cases unclosed
  | acted action =>
      refine ⟨rfl, fun done member => ⟨action, ?_⟩⟩
      exact (Option.some.inj member).symm

theorem no_call_at_rest {service : Service β η}
    (terminated : service.processor.state = .terminated) (rest : service.processor.AtRest)
    (move : Move α) : service.callsBackend move = false := by
  cases move with
  | start now => simp [Service.callsBackend, terminated, ProcessorState.canBecome]
  | loop cause now =>
      have ended := rest.ended
      cases loop : service.processor.crew.loop with
      | stopped | crashed => simp [Service.callsBackend, loop]
      | idle | checking | fetching | admitting =>
          rw [loop] at ended
          cases ended
  | runner ticket draw now => simp [Service.callsBackend, Crew.runnerOf?, rest.alone]
  | terminate | close | abandon | outside => rfl

theorem never_acts_at_rest {service : Service β η}
    (terminated : service.processor.state = .terminated) (rest : service.processor.AtRest) :
    service.NeverActs setting index := by
  intro deeds later course
  have along := course_keeps
    (fun deeds processor _ => processor = service.processor ∧
      ∀ deed ∈ deeds, ∃ action, deed = .outside action)
    course ⟨rfl, by simp⟩ (by
      intro deeds processor later state next deed step before
      obtain ⟨same, foreign⟩ := before
      rw [same] at step
      obtain ⟨still, acted⟩ := only_others_act step terminated rest
      refine ⟨still, fun done member => ?_⟩
      rcases List.mem_append.mp member with early | late
      · exact foreign done early
      · exact acted done (Option.mem_toList.mp late))
  obtain ⟨same, foreign⟩ := along
  refine ⟨same, foreign, fun move => ?_⟩
  have quiet : later.callsBackend move = false := by
    apply no_call_at_rest
    · rw [same]
      exact terminated
    · rw [same]
      exact rest
  refine ⟨quiet, fun next moved => ?_⟩
  by_cases foreignMove : ∃ action, move = .outside action
  · exact .inl foreignMove
  · right
    apply backend_without_call quiet _ moved
    intro action acted
    exact foreignMove ⟨action, acted⟩

/-- The step with which a termination returns is the one that has gathered all slots. -/
theorem returned_at_rest {service last : Service β η} (sound : service.processor.Sound index)
    (returned : service.TerminationReturns setting index last) :
    last.processor.state = .terminated ∧ last.processor.AtRest := by
  obtain ⟨moved, idle⟩ := returned
  simp only [Service.after?, Option.map_eq_some_iff, Prod.exists] at moved
  obtain ⟨processor, shared, advanced, rfl⟩ := moved
  obtain ⟨step, _⟩ := closing_step_cases advanced
  have rested := Processor.closing_step_sound step sound
  have terminated : processor.state = .terminated := by
    generalize service.processor = before at step
    cases step with
    | joined =>
        simp only at idle
        split at idle <;> cases idle
    | taken | given | queued => cases idle
    | finished => rfl
  exact ⟨terminated, rested.inPhase.terminated terminated⟩

theorem course_to_return {origin service last : Service β η} {deeds : List (Deed α)}
    (course : Course setting index origin deeds service)
    (returned : service.TerminationReturns setting index last) :
    Course setting index origin deeds last := by
  have whole := Course.next course .close returned.1
  have deed : service.deed? (.close : Move α) last = none := rfl
  rwa [deed, Option.toList_none, List.append_nil] at whole

theorem shut_down_at_rest {deeds : List (Deed α)} {processor : Processor β}
    (recorded : processor.crew.Recorded deeds)
    (distinct : (deeds.filterMap Deed.reported?).Nodup)
    (terminated : processor.state = .terminated) (rest : processor.AtRest) :
    processor.ShutDown deeds := by
  have nothing := LoopStage.ended_held rest.ended
  have fetched := recorded.fetched
  have assigned := recorded.assigned
  have reported := recorded.reported
  rw [nothing, Option.toList_none, List.append_nil] at fetched
  rw [rest.alone, List.map_nil, List.nil_append] at assigned
  rw [Crew.settled, rest.alone, List.filter_nil, List.map_nil, List.nil_append] at reported
  exact
    { terminated := terminated
      unused := by
        unfold Processor.inFlight Slots.inFlight
        rw [rest.free]
        exact Nat.sub_self _
      loop_ended := rest.ended
      nobody_left := rest.alone
      handed_over := fetched
      reconciled := reported.trans assigned.symm
      once := distinct }

end Shutdown

/-- When the termination of a processor returns, the processor is shut down: nothing of it is at
work, all that it fetched has been handed over and reconciled, each message once, and it will never
act again. A queue in memory that only this processor consumes then has nothing in progress. -/
theorem termination_is_graceful :
    (∀ {β η α : Type} (setting : Setting β η α) (index : Nat) {config : ProcessorConfig}
        {failure : FailureHandler Party β} {processor : Processor β} {shared : Shared β η}
        {deeds : List (Deed α)} {service last : Service β η},
      Processor.new? config failure = some processor →
      Course setting index { processor := processor, shared := shared } deeds service →
      service.TerminationReturns setting index last →
        last.processor.ShutDown deeds ∧ last.NeverActs setting index) ∧
    ∀ {η : Type} (handler : Handler η) (index : Nat) {policy : RetryPolicy}
        {config : ProcessorConfig} {processor : Processor (MemoryQueue Party)}
        {shared : Shared (MemoryQueue Party) η} {deeds : List (Deed TaskMessage)}
        {service last : Service (MemoryQueue Party) η},
      policy.Bounded →
      Processor.new? config (policy.reconcile MemoryQueue.backend) = some processor →
      Course (MemoryQueue.setting handler) index
        { processor := processor, shared := shared } deeds service →
      service.TerminationReturns (MemoryQueue.setting handler) index last →
        last.shared.backend.store.inProgress = [] := by
  constructor
  · intro β η α setting index config failure processor shared deeds service last created course
      returned
    obtain ⟨sound, _⟩ := course_recorded created course
    obtain ⟨terminated, rest⟩ := returned_at_rest sound returned
    have whole := course_to_return course returned
    exact
      ⟨shut_down_at_rest (course_recorded created whole).2 (reported_nodup created whole)
          terminated rest,
        never_acts_at_rest terminated rest⟩
  · intro η handler index policy config processor shared deeds service last bounded created
      course returned
    obtain ⟨sound, _⟩ := course_tracked bounded created course
    obtain ⟨terminated, rest⟩ := returned_at_rest sound returned
    obtain ⟨_, tracked⟩ := course_tracked bounded created (course_to_return course returned)
    have owned := tracked.owned (by simp [terminated])
    have nothing : last.processor.crew.owned = 0 := by
      rw [Crew.owned, Crew.atWork, LoopStage.ended_held rest.ended, rest.alone]
      rfl
    apply List.eq_nil_of_length_eq_zero
    rw [← ids_of_card, owned, nothing, Multiset.card_zero]

open Rehearsal in
theorem rehearsal_is_graceful :
    ∃ service last,
      Service.run (MemoryQueue.setting handler) 0 (opening ++ ending)
          { processor := processor, shared := shared } =
        some ([.outside message, .fetched message, .assigned assignment, .reported assignment,
          .released assignment], service) ∧
      service.TerminationReturns (MemoryQueue.setting handler) 0 last ∧
      last.processor.ShutDown (α := TaskMessage)
        [.outside message, .fetched message, .assigned assignment, .reported assignment,
          .released assignment] ∧
      last.NeverActs (MemoryQueue.setting handler) 0 ∧
      last.shared.backend.store.inProgress = [] := by
  have ran : ∃ service last,
      Service.run (MemoryQueue.setting handler) 0 (opening ++ ending)
          { processor := processor, shared := shared } =
        some ([.outside message, .fetched message, .assigned assignment, .reported assignment,
          .released assignment], service) ∧
      service.TerminationReturns (MemoryQueue.setting handler) 0 last :=
    ⟨_, _, rfl, rfl, rfl⟩
  obtain ⟨service, last, ran, returned⟩ := ran
  have bounded : RetryPolicy.default.Bounded := by decide
  obtain ⟨shut, never⟩ := termination_is_graceful.1 (MemoryQueue.setting handler) 0 created
    (course_of_run ran) returned
  have nothing := termination_is_graceful.2 handler 0 bounded created (course_of_run ran) returned
  exact ⟨service, last, ran, returned, shut, never, nothing⟩

end TaskDispatch
