import TaskDispatch.Proofs.Worker.Hiring

/-!
# The turn of the loop

A dispatch loop has to wait at two places only: in a fetch, and in the line for a slot. In the line
it waits only while runners hold every slot, and then it is the first in it: the slot of the first
runner that is done is granted to the loop.
-/

namespace TaskDispatch

set_option autoImplicit false

section Line

variable {β η α : Type} {setting : Setting β η α} {index : Nat} {processor later : Processor β}

theorem service_move_prompt {state next : β} {handlers changed : η} {move : Move α}
    {act : Option Act}
    (moved : ServiceMove setting index processor state handlers move act later next changed)
    (prompt : processor.crew.slots.Prompt) : later.crew.slots.Prompt := by
  cases moved with
  | dispatched step =>
      cases step with
      | stopped | overdue | begun | waiting | answered | resumed => exact prompt
      | queued holding full => exact .inr full
      | admitted holding room =>
          rcases prompt with nobody | full
          · exact .inl nobody
          · omega
  | executed step =>
      cases step with
      | called | handled | completed | failed => exact prompt
      | retired => exact Slots.release_prompt prompt
  | closed step =>
      cases step with
      | joined | taken => exact prompt
      | finished => exact Slots.release_many_prompt prompt _
      | queued draining missing full => exact .inr full
      | given draining missing room =>
          rcases prompt with nobody | full
          · exact .inl nobody
          · omega
  | startRefused | startPanicked | started | terminationRefused | terminating | keptOn | dropped
  | acted => exact prompt

variable {config : ProcessorConfig} {failure : FailureHandler Party β} {shared : Shared β η}
  {steps : List (Transition β η α)} {service : Service β η}

theorem passage_prompt (created : Processor.new? config failure = some processor)
    (passage : Passage setting index { processor := processor, shared := shared } steps service) :
    service.processor.crew.slots.Prompt := by
  induction passage with
  | begin =>
      simp only [Processor.new?, Crew.new?, Slots.new?, Option.map_map,
        Option.map_eq_some_iff] at created
      obtain ⟨slots, allowed, rfl⟩ := created
      split at allowed
      · cases allowed
        exact .inl rfl
      · cases allowed
  | next _ move moved ih => exact service_move_prompt (service_move_cases moved) ih

/-- A loop that waits for a slot is alone in the line, and runners hold all slots. -/
structure Processor.Crowded (index : Nat) (processor : Processor β) : Prop where
  line : processor.crew.slots.waiting = [.loop index]
  full : processor.crew.slots.free = 0
  busy : processor.crew.runners.length = processor.config.concurrency.toNat
  in_flight : processor.inFlight = processor.config.concurrency.toNat

theorem crowded_of_ungranted (sound : processor.Sound index) (prompt : processor.crew.slots.Prompt)
    {message : TaskMessage} (queued : processor.crew.loop = .admitting message true)
    (ungranted : .loop index ∉ processor.crew.slots.granted) : processor.Crowded index := by
  -- The termination does not take slots before the loop has ended.
  have outside : processor.closing.isDraining = false := by
    cases closing : processor.closing with
    | idle | joining | crashed => rfl
    | draining =>
        have ended := sound.inPhase.joined (by simp [closing]) (by simp [closing])
        rw [queued] at ended
        cases ended
  obtain ⟨noRequest, noSlot⟩ := ClosingStage.no_request outside index
  have line := sound.budgeted.line
  rw [queued, noRequest] at line
  have alone : processor.crew.slots.waiting ++ processor.crew.slots.granted = [.loop index] :=
    List.perm_singleton.mp line
  obtain ⟨waiting, granted⟩ : processor.crew.slots.waiting = [.loop index] ∧
      processor.crew.slots.granted = [] := by
    rcases List.append_eq_singleton_iff.mp alone with ⟨_, granted⟩ | both
    · rw [granted] at ungranted
      exact absurd (List.mem_singleton_self _) ungranted
    · exact both
  have full : processor.crew.slots.free = 0 := by
    rcases prompt with nobody | full
    · rw [waiting] at nobody
      cases nobody
    · exact full
  have accounted := sound.budgeted.accounted
  rw [full, granted, noSlot, sound.budgeted.size, List.length_nil, Nat.zero_add,
    Nat.add_zero] at accounted
  refine ⟨waiting, full, accounted, ?_⟩
  rw [Processor.inFlight, Slots.inFlight, full, sound.budgeted.size, Nat.sub_zero]

end Line

section Blocking

variable {β η α : Type} {setting : Setting β η α} {index : Nat} {service : Service β η}
  {cause : WakeCause} {now : Moment}

/-- Where a loop is that cannot take a step. -/
theorem loop_blocked (blocked : service.after? setting index (.loop cause now) = none) :
    service.processor.crew.loop = .idle ∨ service.processor.crew.loop.hasEnded = true ∨
      (service.processor.crew.loop = .fetching ∧
        setting.plant.backend.advanceFetch cause (.loop index) now service.shared.backend =
          none) ∨
      ∃ message, service.processor.crew.loop = .admitting message true ∧
        .loop index ∉ service.processor.crew.slots.granted := by
  simp only [Service.after?, Option.map_eq_none_iff] at blocked
  unfold Crew.advanceLoop at blocked
  cases loop : service.processor.crew.loop with
  | idle => exact .inl rfl
  | stopped | crashed => exact .inr (.inl rfl)
  | checking => simp [loop] at blocked
  | fetching =>
      refine .inr (.inr (.inl ⟨rfl, ?_⟩))
      cases fetch : setting.plant.backend.advanceFetch cause (.loop index) now
          service.shared.backend with
      | none => rfl
      | some outcome =>
          obtain ⟨state, step, woken⟩ := outcome
          cases step <;> simp [loop, fetch] at blocked
  | admitting message queued =>
      cases queued with
      | false =>
          simp only [loop] at blocked
          split at blocked <;> cases blocked
      | true =>
          refine .inr (.inr (.inr ⟨message, rfl, fun granted => ?_⟩))
          simp [loop, Slots.takeGranted?, granted] at blocked

/-- A loop whose request is granted hands its message over. -/
theorem granted_loop_admits {message : TaskMessage}
    (queued : service.processor.crew.loop = .admitting message true)
    (granted : .loop index ∈ service.processor.crew.slots.granted) :
    service.act? setting index (.loop cause now) =
        some (.admitted (service.processor.crew.nextAssignment message)) ∧
      ∃ later, service.after? setting index (.loop cause now) = some later ∧
        service.processor.crew.Hires index later.processor.crew
          (service.processor.crew.nextAssignment message).runner := by
  have act : service.act? setting index (.loop cause now) =
      some (.admitted (service.processor.crew.nextAssignment message)) := by
    simp only [Service.act?, Crew.loopAct?, queued]
  have moves : ∃ later, service.after? setting index (.loop cause now) = some later := by
    simp only [Service.after?, Crew.advanceLoop, queued, Slots.takeGranted?, if_pos granted,
      Option.bind_eq_bind, Option.bind_some, Option.map_some]
    exact ⟨_, rfl⟩
  obtain ⟨later, moved⟩ := moves
  have done := service_move_cases moved
  rw [act] at done
  exact ⟨act, later, moved, hires_by_admission done⟩

/-- A runner that is gone has left its slot to the loop that waited for it. -/
theorem granted_after_retirement {plant : Plant β η} {failure : FailureHandler Party β}
    {ticket draw : Nat} {crew later : Crew} {state next : β} {handlers changed : η}
    {act : Option Act}
    (moved : RunnerMove plant failure ticket draw now crew state handlers act later next changed)
    (line : crew.slots.waiting = [.loop index]) (gone : later.runnerOf? ticket = none) :
    .loop index ∈ later.slots.granted ∧ later.loop = crew.loop := by
  have still {runner : Runner} (found : crew.runnerOf? ticket = some runner)
      (stage : RunnerStage) :
      (crew.setRunner { runner with stage := stage }).runnerOf? ticket ≠ none := by
    rw [Crew.found_after_set_runner found { runner with stage := stage } rfl]
    exact Option.some_ne_none _
  cases moved with
  | called found | handled found | completed found | failed found =>
      exact absurd gone (still found _)
  | retired => exact ⟨Slots.granted_after_release line, rfl⟩

end Blocking

end TaskDispatch
