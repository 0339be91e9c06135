import TaskDispatch.Proofs.Worker.Budget

/-!
# The phases of a processor

A processor that has not been started has no loop and no runners. A termination is under way only
while the processor is terminating, and it takes slots only after the loop has ended. Once it has
taken them all no runner is left, so a terminated processor has ended its loop and freed every slot.
-/

namespace TaskDispatch

set_option autoImplicit false

/-- The message that the loop has fetched and not yet handed over. -/
def LoopStage.held? : LoopStage → Option TaskMessage
  | .admitting message _ => some message
  | _ => none

def ClosingStage.isDraining : ClosingStage → Bool
  | .draining _ _ => true
  | _ => false

theorem LoopStage.ended_held {stage : LoopStage} (ended : stage.hasEnded = true) :
    stage.held? = none := by
  cases stage <;> simp [LoopStage.hasEnded] at ended <;> rfl

theorem LoopStage.no_request {stage : LoopStage} (nothing : stage.held? = none)
    (index : Nat) : stage.request index = [] := by
  cases stage with
  | admitting message queued => simp [LoopStage.held?] at nothing
  | _ => rfl

theorem ClosingStage.no_request {stage : ClosingStage} (outside : stage.isDraining = false)
    (index : Nat) : stage.request index = [] ∧ stage.gathered = 0 := by
  cases stage with
  | draining gathered queued => simp [ClosingStage.isDraining] at outside
  | _ => exact ⟨rfl, rfl⟩

namespace Processor

variable {β : Type}

structure AtRest (processor : Processor β) : Prop where
  unclosed : processor.closing = .idle
  ended : processor.crew.loop.hasEnded = true
  alone : processor.crew.runners = []
  free : processor.crew.slots.free = processor.crew.slots.capacity

structure InPhase (processor : Processor β) : Prop where
  unstarted : processor.state = .created →
    processor.crew.loop = .idle ∧ processor.crew.runners = [] ∧ processor.closing = .idle
  begun : processor.crew.loop = .idle → processor.state = .created
  terminating : processor.closing ≠ .idle → processor.state = .terminating
  joined : processor.closing ≠ .idle → processor.closing ≠ .joining →
    processor.crew.loop.hasEnded = true
  terminated : processor.state = .terminated → processor.AtRest

structure Sound (index : Nat) (processor : Processor β) : Prop where
  budgeted : processor.Budgeted index
  inPhase : processor.InPhase

variable {index : Nat} {processor : Processor β}

theorem new_processor_settings {config : ProcessorConfig} {failure : FailureHandler Party β}
    (created : Processor.new? config failure = some processor) :
    processor.state = .created ∧ processor.config = config ∧ processor.failure = failure := by
  simp only [Processor.new?, Option.map_eq_some_iff] at created
  obtain ⟨crew, _, rfl⟩ := created
  exact ⟨rfl, rfl, rfl⟩

theorem new_processor_sound {config : ProcessorConfig} {failure : FailureHandler Party β}
    (created : Processor.new? config failure = some processor) : processor.Sound index := by
  refine ⟨new_processor_budgeted created, ?_⟩
  simp only [Processor.new?, Crew.new?, Option.map_map, Option.map_eq_some_iff] at created
  obtain ⟨slots, _, rfl⟩ := created
  constructor
  case unstarted =>
    intro _
    exact ⟨rfl, rfl, rfl⟩
  case begun =>
    intro _
    rfl
  case terminating =>
    intro closing
    exact absurd rfl closing
  case joined =>
    intro closing
    exact absurd rfl closing
  case terminated =>
    intro terminated
    cases terminated

theorem InPhase.idle_while_running (inPhase : processor.InPhase)
    (running : processor.state = .running) : processor.closing = .idle := by
  by_contra closing
  have terminating := inPhase.terminating closing
  rw [running] at terminating
  cases terminating

theorem started_sound (sound : processor.Sound index) (created : processor.state = .created) :
    ({ processor with
      state := .running
      crew := { processor.crew with loop := .checking } } : Processor β).Sound index := by
  obtain ⟨idle, _, unclosed⟩ := sound.inPhase.unstarted created
  have before : processor.crew.loop.request index = [] := by
    rw [idle]
    rfl
  have budgeted := budgeted_after_loop_stage .checking sound.budgeted before rfl
  refine ⟨⟨budgeted.size, budgeted.accounted, budgeted.line, budgeted.ticketed⟩, ?_⟩
  constructor
  case unstarted =>
    intro state
    cases state
  case begun =>
    intro loop
    cases loop
  case terminating =>
    intro closing
    exact absurd unclosed closing
  case joined =>
    intro closing
    exact absurd unclosed closing
  case terminated =>
    intro state
    cases state

theorem terminating_sound (sound : processor.Sound index)
    (running : processor.state = .running) :
    ({ processor with
      state := .terminating
      crew := { processor.crew with stop := true }
      closing := .joining } : Processor β).Sound index := by
  have unclosed := sound.inPhase.idle_while_running running
  have budgeted := sound.budgeted
  have accounted := budgeted.accounted
  have line := budgeted.line
  rw [unclosed] at accounted line
  refine ⟨⟨budgeted.size, accounted, line, ?_⟩, ?_⟩
  · exact ⟨budgeted.ticketed.distinct, budgeted.ticketed.given⟩
  constructor
  case unstarted =>
    intro state
    cases state
  case begun =>
    intro loop
    have created := sound.inPhase.begun loop
    rw [running] at created
    cases created
  case terminating =>
    intro _
    rfl
  case joined =>
    intro _ joining
    exact absurd rfl joining
  case terminated =>
    intro state
    cases state

theorem dropped_sound (sound : processor.Sound index) :
    ({ processor with crew := { processor.crew with stop := true } } :
      Processor β).Sound index := by
  have budgeted := sound.budgeted
  have inPhase := sound.inPhase
  refine ⟨⟨budgeted.size, budgeted.accounted, budgeted.line, ?_⟩, ?_⟩
  · exact ⟨budgeted.ticketed.distinct, budgeted.ticketed.given⟩
  refine ⟨inPhase.unstarted, inPhase.begun, inPhase.terminating, inPhase.joined, ?_⟩
  intro state
  have rest := inPhase.terminated state
  exact ⟨rest.unclosed, rest.ended, rest.alone, rest.free⟩

/-- A loop that can step has been started and has not ended. -/
theorem loop_active {backend : Backend Party β} {crew next : Crew} {state later : β}
    (step : LoopStep backend index crew state next later) :
    crew.loop ≠ .idle ∧ crew.loop.hasEnded = false ∧ next.loop ≠ .idle := by
  cases step with
  | stopped loop | overdue loop | begun loop | waiting loop | empty loop | received loop
  | panicked loop | queued loop => simp [loop, LoopStage.hasEnded]
  | admitted loop | resumed loop => simp [loop, LoopStage.hasEnded, Crew.assign]

theorem loop_step_sound {backend : Backend Party β} {state next : β} {crew : Crew}
    (step : LoopStep backend index processor.crew state crew next)
    (sound : processor.Sound index) :
    ({ processor with crew := crew } : Processor β).Sound index := by
  obtain ⟨started, active, going⟩ := loop_active step
  have inPhase := sound.inPhase
  refine ⟨loop_step_keeps_budget step sound.budgeted, ?_⟩
  constructor
  case unstarted =>
    intro state
    exact absurd (inPhase.unstarted state).1 started
  case begun =>
    intro loop
    exact absurd loop going
  case terminating => exact inPhase.terminating
  case joined =>
    intro closing joining
    have ended := inPhase.joined closing joining
    rw [active] at ended
    cases ended
  case terminated =>
    intro state
    have ended := (inPhase.terminated state).ended
    rw [active] at ended
    cases ended

/-- A runner that can step is there, and its step leaves the loop alone. -/
theorem runner_present {backend : Backend Party β} {failure : FailureHandler Party β}
    {ticket : Nat} {crew next : Crew} {state later : β}
    (step : RunnerStep backend failure ticket crew state next later) :
    crew.runners ≠ [] ∧ next.loop = crew.loop := by
  have present {runner : Runner} (found : crew.runnerOf? ticket = some runner) :
      crew.runners ≠ [] := List.ne_nil_of_mem (Crew.mem_of_found found)
  cases step with
  | called found | handled found | completed found | failed found | retired found =>
      exact ⟨present found, rfl⟩

theorem runner_step_sound {backend : Backend Party β} {ticket : Nat}
    {state next : β} {crew : Crew}
    (step : RunnerStep backend processor.failure ticket processor.crew state crew next)
    (sound : processor.Sound index) :
    ({ processor with crew := crew } : Processor β).Sound index := by
  obtain ⟨present, loop⟩ := runner_present step
  have inPhase := sound.inPhase
  refine ⟨runner_step_keeps_budget step sound.budgeted, ?_⟩
  constructor
  case unstarted =>
    intro state
    exact absurd (inPhase.unstarted state).2.1 present
  case begun =>
    intro idle
    apply inPhase.begun
    rw [← loop]
    exact idle
  case terminating => exact inPhase.terminating
  case joined =>
    intro closing joining
    simp only [loop]
    exact inPhase.joined closing joining
  case terminated =>
    intro state
    exact absurd (inPhase.terminated state).alone present

/-- With all slots gathered none is left for a runner or a request, and all become free. -/
theorem finished_at_rest {gathered : Nat} (sound : processor.Sound index)
    (draining : processor.closing = .draining gathered false)
    (all : gathered = processor.crew.slots.capacity) :
    ({ processor with
      state := .terminated
      crew := { processor.crew with slots := (processor.crew.slots.releaseMany gathered).1 }
      closing := .idle } : Processor β).AtRest := by
  have ended : processor.crew.loop.hasEnded = true :=
    sound.inPhase.joined (by simp [draining]) (by simp [draining])
  have accounted := sound.budgeted.accounted
  have line := sound.budgeted.line
  rw [draining] at accounted line
  rw [LoopStage.no_request (LoopStage.ended_held ended), List.nil_append] at line
  have capacity := Slots.release_many_capacity processor.crew.slots gathered
  have freed := Slots.release_many_accounted processor.crew.slots gathered
  have nobody := ((Slots.release_many_line processor.crew.slots gathered).trans line).length_eq
  simp only [ClosingStage.gathered] at accounted
  simp only [ClosingStage.request, List.length_append, List.length_nil] at nobody
  constructor
  case unclosed => rfl
  case ended => exact ended
  case alone =>
    apply List.eq_nil_of_length_eq_zero
    simp only
    omega
  case free =>
    simp only
    omega

theorem closing_step_sound {next : Processor β} (step : ClosingStep index processor next)
    (sound : processor.Sound index) : next.Sound index := by
  have inPhase := sound.inPhase
  have underWay {stage : ClosingStage} (closing : processor.closing = stage)
      (active : stage ≠ .idle) : processor.state = .terminating := by
    apply inPhase.terminating
    rw [closing]
    exact active
  -- Until the last step the processor is terminating and its loop has ended.
  have going {later : Processor β} (state : later.state = processor.state)
      (loop : later.crew.loop = processor.crew.loop)
      (terminating : processor.state = .terminating)
      (ended : processor.crew.loop.hasEnded = true) : later.InPhase := by
    rw [terminating] at state
    constructor
    case unstarted =>
      intro created
      rw [state] at created
      cases created
    case begun =>
      intro idle
      rw [loop] at idle
      rw [idle] at ended
      cases ended
    case terminating =>
      intro _
      exact state
    case joined =>
      intro _ _
      rw [loop]
      exact ended
    case terminated =>
      intro terminated
      rw [state] at terminated
      cases terminated
  refine ⟨closing_step_keeps_budget step sound.budgeted, ?_⟩
  cases step with
  | joined joining ended => exact going rfl rfl (underWay joining (by simp)) ended
  | taken draining | given draining | queued draining =>
      have ended := inPhase.joined (by simp [draining]) (by simp [draining])
      exact going rfl rfl (underWay draining (by simp)) ended
  | finished draining all =>
      have rest := finished_at_rest sound draining all
      constructor
      case unstarted =>
        intro state
        cases state
      case begun =>
        intro loop
        have ended := rest.ended
        rw [loop] at ended
        cases ended
      case terminating =>
        intro closing
        exact absurd rfl closing
      case joined =>
        intro closing
        exact absurd rfl closing
      case terminated =>
        intro _
        exact rest

theorem service_step_sound {η α : Type} {setting : Setting β η α} {later : Processor β}
    {state next : β} {deed : Option (Deed α)}
    (step : ServiceStep setting index processor state deed later next)
    (sound : processor.Sound index) : later.Sound index := by
  cases step with
  | refused => exact sound
  | unrestored => exact sound
  | started created => exact started_sound sound created
  | dispatched step => exact loop_step_sound step sound
  | executed step => exact runner_step_sound step sound
  | terminating running => exact terminating_sound sound running
  | closed step => exact closing_step_sound step sound
  | dropped => exact dropped_sound sound
  | acted => exact sound

end Processor

end TaskDispatch
