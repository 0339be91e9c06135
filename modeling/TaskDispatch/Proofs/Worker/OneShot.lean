import TaskDispatch.Proofs.Worker.Tally

/-!
# A processor lives once

Calls of start and terminate may come at any time and in any number. The first start is accepted,
also if the backend refuses to restore; after it no start is, and a termination is accepted once, by
a running processor. A refused call leaves everything as it is. So the states of a processor follow
each other in one order, and it has its backend restore once, before it fetches anything; a backend
that keeps a tally of its calls finds just that.
-/

namespace TaskDispatch

set_option autoImplicit false

def ProcessorState.upTo : ProcessorState → List ProcessorState
  | .created => [.created]
  | .running => [.created, .running]
  | .terminating => [.created, .running, .terminating]
  | .terminated => ProcessorState.all

theorem ProcessorState.up_to_prefix (state : ProcessorState) : state.upTo <+: all := by
  cases state <;> decide

def Move.isStart {α : Type} : Move α → Bool
  | .start _ => true
  | _ => false

def Act.isFetch (act : Act) : Bool := act.isFetchBegun || act.isFetchEnded

/-- What a move is for the life of a processor. It goes from one state to the next at three places
only; a new processor stays new as long as nobody starts it. -/
inductive LifeStep {α : Type} : ProcessorState → Move α → Option Act → ProcessorState → Prop where
  | stays {state : ProcessorState} {move : Move α} {act : Option Act}
      (unasked : act.any Act.isRestoration = false)
      (unstarted : state = .created →
        move.isStart = false ∧ move.isLoop = false ∧ act.any Act.isFetch = false)
      (going : state = .running → move ≠ .terminate) : LifeStep state move act state
  | started (now : Moment) (answer : Except CallFailure Nat) :
      LifeStep .created (.start now) (some (.restored answer)) .running
  | terminating : LifeStep .running .terminate none .terminating
  | terminated : LifeStep .terminating .close none .terminated

section LifeSteps

variable {α : Type} {state next : ProcessorState} {move : Move α}

theorem LifeStep.legal {act : Option Act} (life : LifeStep state move act next) :
    next = state ∨ state.canBecome next = true := by
  cases life with
  | stays => exact .inl rfl
  | started | terminating | terminated => exact .inr rfl

theorem LifeStep.begun_of_loop {act : Option Act} (life : LifeStep state move act next)
    (loop : move.isLoop = true) : state ≠ .created := by
  rintro rfl
  cases life with
  | stays _ unstarted =>
      rw [(unstarted rfl).2.1] at loop
      cases loop
  | started => cases loop

end LifeSteps

section Moves

variable {β η α : Type} {setting : Setting β η α} {index : Nat}

theorem life_of_move {processor later : Processor β} {state next : β} {handlers changed : η}
    {move : Move α} {act : Option Act}
    (moved : ServiceMove setting index processor state handlers move act later next changed)
    (sound : processor.Sound index)
    (returns : ∀ state, (setting.plant.backend.restore state).hasPanicked = false) :
    LifeStep processor.state move act later.state := by
  have loopOfNew := fun created => (sound.inPhase.unstarted created).1
  cases moved with
  | started created =>
      rw [created]
      exact .started _ _
  | startPanicked _ panicked =>
      rw [returns] at panicked
      cases panicked
  | startRefused begun => exact .stays rfl (fun created => absurd created begun) (by simp)
  | dispatched step =>
      have begun : processor.state ≠ .created := fun created =>
        (Processor.loop_active step.step).1 (loopOfNew created)
      refine .stays ?_ (fun created => absurd created begun) (by simp)
      cases step <;> rfl
  | executed step =>
      refine .stays ?_ (fun _ => ⟨rfl, rfl, ?_⟩) (by simp)
      · cases step <;> rfl
      · cases step <;> rfl
  | terminationRefused idle =>
      exact .stays rfl (fun _ => ⟨rfl, rfl, rfl⟩) (fun running => absurd running idle)
  | terminating running =>
      rw [running]
      exact .terminating
  | closed step =>
      cases step with
      | finished draining =>
          rw [sound.inPhase.terminating (by simp [draining])]
          exact .terminated
      | joined | taken | given | queued =>
          exact .stays rfl (fun _ => ⟨rfl, rfl, rfl⟩) (by simp)
  | keptOn | dropped | acted => exact .stays rfl (fun _ => ⟨rfl, rfl, rfl⟩) (by simp)

/-- The act of a restoration is a call of the backend, with its answer and its effect. -/
theorem restoration_is_call {processor later : Processor β} {state next : β}
    {handlers changed : η} {move : Move α} {answer : Except CallFailure Nat}
    (moved : ServiceMove setting index processor state handlers move (some (.restored answer))
      later next changed) :
    move.isStart = true ∧ answer = (setting.plant.backend.restore state).answer ∧
      next = (setting.plant.backend.restore state).state := by
  cases moved with
  | startPanicked | started => exact ⟨rfl, rfl, rfl⟩
  | dispatched step => cases step
  | executed step => cases step

theorem restoration_in_passage {origin service : Service β η} {steps : List (Transition β η α)}
    {step : Transition β η α} {answer : Except CallFailure Nat}
    (passage : Passage setting index origin steps service) (member : step ∈ steps)
    (act : step.act? setting index = some (.restored answer)) :
    step.move.isStart = true ∧
      answer = (setting.plant.backend.restore step.before.shared.backend).answer ∧
      step.after.shared.backend =
        (setting.plant.backend.restore step.before.shared.backend).state := by
  have performed : step.Performed setting index := passage_performed passage member
  rw [Transition.Performed, act] at performed
  exact restoration_is_call performed

end Moves

namespace Transition

variable {β η α : Type}

def entered? (step : Transition β η α) : Option ProcessorState :=
  if step.after.processor.state = step.before.processor.state then none
  else some step.after.processor.state

def AcceptsTermination (step : Transition β η α) : Prop :=
  step.move = .terminate ∧
    ∃ accepted, step.before.processor.terminate step.before.shared = .ok accepted

theorem running_before_termination {step : Transition β η α} (accepts : step.AcceptsTermination) :
    step.before.processor.state = .running := by
  obtain ⟨_, accepted, answer⟩ := accepts
  apply running_of_can_terminate
  by_contra refused
  simp only [Processor.terminate, ProcessorState.ensureCanBecome, if_neg refused, Except.bind,
    bind] at answer
  cases answer

end Transition

section Lives

variable {β η α : Type}

structure Lived (steps : List (Transition β η α)) (acts : List Act) (state : ProcessorState) :
    Prop where
  entered : .created :: steps.filterMap Transition.entered? = state.upTo
  unstarted : state = .created ↔ ∀ step ∈ steps, step.move.isStart = false
  ending : (∃ step ∈ steps, step.AcceptsTermination) → state = .terminating ∨ state = .terminated
  restored : acts.countP Act.isRestoration = if state = .created then 0 else 1
  unlooped : state = .created → ∀ step ∈ steps, step.move.isLoop = false
  unfetched : state = .created → ∀ act ∈ acts, act.isFetch = false

variable {setting : Setting β η α} {index : Nat} {steps : List (Transition β η α)}
  {step : Transition β η α} {acts : List Act} {act : Option Act}

theorem lived_after_step (lived : Lived steps acts step.before.processor.state)
    (life : LifeStep step.before.processor.state step.move act step.after.processor.state) :
    Lived (steps ++ [step]) (acts ++ act.toList) step.after.processor.state := by
  have accepted := fun accepts : step.AcceptsTermination =>
    And.intro accepts.1 (Transition.running_before_termination accepts)
  obtain ⟨before, move, after⟩ := step
  simp only at lived life accepted
  generalize stateBefore : before.processor.state = state at lived life accepted
  generalize stateAfter : after.processor.state = next at life
  have entered : Transition.entered? { before := before, move := move, after := after } =
      if next = state then none else some next := by
    simp only [Transition.entered?, stateBefore, stateAfter]
  constructor
  case entered =>
    rw [filter_map_concat, entered, ← List.cons_append, lived.entered]
    cases life <;> simp [ProcessorState.upTo, ProcessorState.all]
  case unstarted =>
    simp only [List.mem_append, List.mem_singleton, or_imp, forall_and, forall_eq]
    rw [← lived.unstarted]
    cases life with
    | stays _ unstarted =>
        exact ⟨fun created => ⟨created, (unstarted created).1⟩, fun both => both.1⟩
    | started | terminating | terminated => simp [Move.isStart]
  case ending =>
    rintro ⟨other, member, accepts⟩
    rcases List.mem_append.mp member with earlier | last
    · have ending := lived.ending ⟨other, earlier, accepts⟩
      cases life with
      | stays => exact ending
      | started | terminating | terminated => simp_all
    · obtain rfl := List.mem_singleton.mp last
      obtain ⟨terminates, running⟩ := accepted accepts
      cases life with
      | stays _ _ going => exact absurd terminates (going running)
      | terminating => exact .inl rfl
      | started | terminated => cases running
  case restored =>
    rw [List.countP_append, lived.restored]
    cases life with
    | stays unasked =>
        cases act with
        | none => rfl
        | some act =>
            have unasked : ¬ act.isRestoration = true := by simpa using unasked
            simp [unasked]
    | started | terminating | terminated => simp [Act.isRestoration]
  case unlooped =>
    intro created other member
    cases life with
    | stays _ unstarted =>
        rcases List.mem_append.mp member with earlier | last
        · exact lived.unlooped created other earlier
        · rw [List.mem_singleton.mp last]
          exact (unstarted created).2.1
    | started | terminating | terminated => cases created
  case unfetched =>
    intro created act member
    cases life with
    | stays _ unstarted =>
        rcases List.mem_append.mp member with earlier | last
        · exact lived.unfetched created act earlier
        · have unfetched := (unstarted created).2.2
          rw [Option.mem_toList.mp last] at unfetched
          exact unfetched
    | started | terminating | terminated => cases created

/-- A processor restores once if it was ever started, and never before. -/
theorem Lived.restored_once {state : ProcessorState} (lived : Lived steps acts state) :
    acts.countP Act.isRestoration = if steps.any fun step => step.move.isStart then 1 else 0 := by
  rw [lived.restored]
  by_cases new : state = .created
  · have unstarted := lived.unstarted.mp new
    rw [if_pos new, if_neg]
    simpa using unstarted
  · have started : ¬ ∀ step ∈ steps, step.move.isStart = false := fun unstarted =>
      new (lived.unstarted.mpr unstarted)
    rw [if_neg new, if_pos]
    simpa using started

variable {config : ProcessorConfig} {failure : FailureHandler Party β} {processor : Processor β}
  {shared : Shared β η} {service : Service β η}

theorem passage_lived (created : Processor.new? config failure = some processor)
    (returns : ∀ state, (setting.plant.backend.restore state).hasPanicked = false)
    (passage : Passage setting index { processor := processor, shared := shared } steps service) :
    Lived steps (actsOf setting index steps) service.processor.state := by
  induction passage with
  | begin =>
      rw [(Processor.new_processor_settings created).1]
      exact
        { entered := rfl
          unstarted := by simp
          ending := by simp
          restored := rfl
          unlooped := by simp
          unfetched := by simp [actsOf] }
  | @next steps service later passage move moved ih =>
      have sound := (passage_sound created passage).1
      have life := life_of_move (service_move_cases moved) sound returns
      rw [acts_of_concat]
      exact lived_after_step ih life

/-- How the calls on a processor are answered, and what they bring about, in the order in which they
come between all its other steps. -/
structure LivesOnce (setting : Setting β η α) (failure : FailureHandler Party β) (index : Nat)
    (origin : β) (steps : List (Transition β η α)) : Prop where
  first_start : ∀ (early late : List (Transition β η α)) (step : Transition β η α) (now : Moment),
    steps = early ++ step :: late → step.move = .start now →
      (∀ prior ∈ early, prior.move.isStart = false) →
        ∃ processor shared,
          step.before.processor.start setting.plant index now step.before.shared =
              .started processor shared ∧
            step.after = { processor := processor, shared := shared } ∧
            processor.state = .running ∧
            shared.backend =
              (setting.plant.backend.restore step.before.shared.backend).state ∧
            step.act? setting index =
              some (.restored
                (setting.plant.backend.restore step.before.shared.backend).answer)
  later_start : ∀ (early late : List (Transition β η α)) (step : Transition β η α) (now : Moment),
    steps = early ++ step :: late → step.move = .start now →
      (∃ prior ∈ early, prior.move.isStart = true) →
        step.before.processor.start setting.plant index now step.before.shared =
            .refused (.invalidTransition step.before.processor.state .running) ∧
          step.after = step.before ∧ step.act? setting index = none
  untimely_termination : ∀ (early late : List (Transition β η α)) (step : Transition β η α),
    steps = early ++ step :: late → step.move = .terminate →
      ((∀ prior ∈ early, prior.move.isStart = false) ∨
        ∃ prior ∈ early, prior.AcceptsTermination) →
        step.before.processor.terminate step.before.shared =
            .error (.invalidTransition step.before.processor.state .terminating) ∧
          step.after = step.before ∧ step.act? setting index = none
  in_order : .created :: steps.filterMap Transition.entered? <+: ProcessorState.all
  legal : ∀ step ∈ steps,
    step.after.processor.state = step.before.processor.state ∨
      step.before.processor.state.canBecome step.after.processor.state = true
  restored_once : (actsOf setting index steps).countP Act.isRestoration =
    if steps.any fun step => step.move.isStart then 1 else 0
  restores : ∀ step ∈ steps, ∀ answer, step.act? setting index = some (.restored answer) →
    step.move.isStart = true ∧
      answer = (setting.plant.backend.restore step.before.shared.backend).answer ∧
      step.after.shared.backend =
        (setting.plant.backend.restore step.before.shared.backend).state
  restored_first : ∀ (early late : List (Transition β η α)) (step : Transition β η α),
    steps = early ++ step :: late → step.move.isLoop = true →
      ∃ prior ∈ early,
        prior.act? setting index =
            some (.restored
              (setting.plant.backend.restore prior.before.shared.backend).answer) ∧
          prior.after.shared.backend =
            (setting.plant.backend.restore prior.before.shared.backend).state
  unstarted : (∀ step ∈ steps, step.move.isStart = false) →
    (∀ step ∈ steps, step.move.isLoop = false) ∧
      ∀ act ∈ actsOf setting index steps, act.isFetch = false
  asked : ∀ tally, setting.Tallies failure tally →
    ∀ (early late : List (Transition β η α)) (step : Transition β η α),
      steps = early ++ step :: late →
        (tally step.before.shared.backend).restorations =
            (tally origin).restorations +
              (if early.any fun prior => prior.move.isStart then 1 else 0) ∧
          (tally step.after.shared.backend).restorations =
            (tally origin).restorations +
              (if (early ++ [step]).any fun prior => prior.move.isStart then 1 else 0) ∧
          ((tally step.after.shared.backend).fetches ≠
              (tally step.before.shared.backend).fetches →
            early.any fun prior => prior.move.isStart)
  performed : ∀ step ∈ steps, step.Performed setting index

theorem accepted_start {now : Moment}
    (returns : ∀ state, (setting.plant.backend.restore state).hasPanicked = false)
    (new : step.before.processor.state = .created) (start : step.move = .start now)
    (moved : step.before.after? setting index step.move = some step.after) :
    ∃ processor shared,
      step.before.processor.start setting.plant index now step.before.shared =
          .started processor shared ∧
        step.after = { processor := processor, shared := shared } ∧
        processor.state = .running ∧
        shared.backend = (setting.plant.backend.restore step.before.shared.backend).state ∧
        step.act? setting index =
          some (.restored
            (setting.plant.backend.restore step.before.shared.backend).answer) := by
  have allowed : step.before.processor.state.canBecome .running = true := by
    rw [new]
    rfl
  have answer : ∃ processor shared,
      step.before.processor.start setting.plant index now step.before.shared =
          .started processor shared ∧
        processor.state = .running ∧
        shared.backend = (setting.plant.backend.restore step.before.shared.backend).state := by
    simp only [Processor.start, ProcessorState.ensureCanBecome, if_pos allowed, returns,
      Bool.false_eq_true, if_false]
    exact ⟨_, _, rfl, rfl, rfl⟩
  obtain ⟨processor, shared, answer, running, restored⟩ := answer
  rw [start, Service.after?, answer] at moved
  refine ⟨processor, shared, answer, (Option.some.inj moved).symm, running, restored, ?_⟩
  rw [Transition.act?, start, Service.act?, if_pos allowed]

theorem refused_start {now : Moment} (begun : step.before.processor.state ≠ .created)
    (start : step.move = .start now)
    (moved : step.before.after? setting index step.move = some step.after) :
    step.before.processor.start setting.plant index now step.before.shared =
        .refused (.invalidTransition step.before.processor.state .running) ∧
      step.after = step.before ∧ step.act? setting index = none := by
  have refused : ¬ step.before.processor.state.canBecome .running = true := fun allowed =>
    begun (created_of_can_run allowed)
  have answer : step.before.processor.start setting.plant index now step.before.shared =
      .refused (.invalidTransition step.before.processor.state .running) := by
    simp only [Processor.start, ProcessorState.ensureCanBecome, if_neg refused]
  rw [start, Service.after?, answer] at moved
  refine ⟨answer, (Option.some.inj moved).symm, ?_⟩
  rw [Transition.act?, start, Service.act?, if_neg refused]

theorem refused_termination (idle : step.before.processor.state ≠ .running)
    (terminates : step.move = .terminate)
    (moved : step.before.after? setting index step.move = some step.after) :
    step.before.processor.terminate step.before.shared =
        .error (.invalidTransition step.before.processor.state .terminating) ∧
      step.after = step.before ∧ step.act? setting index = none := by
  have refused : ¬ step.before.processor.state.canBecome .terminating = true := fun allowed =>
    idle (running_of_can_terminate allowed)
  have answer : step.before.processor.terminate step.before.shared =
      .error (.invalidTransition step.before.processor.state .terminating) := by
    simp only [Processor.terminate, ProcessorState.ensureCanBecome, if_neg refused, Except.bind,
      bind]
  rw [terminates, Service.after?, answer] at moved
  refine ⟨answer, (Option.some.inj moved).symm, ?_⟩
  rw [Transition.act?, terminates]
  rfl

section Steps

variable {early late : List (Transition β η α)}
  (returns : ∀ state, (setting.plant.backend.restore state).hasPanicked = false)
  (created : Processor.new? config failure = some processor)
  (passage : Passage setting index { processor := processor, shared := shared }
    (early ++ step :: late) service)

include returns created passage

theorem lived_before_step :
    Lived early (actsOf setting index early) step.before.processor.state ∧
      step.before.after? setting index step.move = some step.after ∧
      LifeStep step.before.processor.state step.move (step.act? setting index)
        step.after.processor.state := by
  obtain ⟨first, moved, _⟩ := passage_around passage
  exact
    ⟨passage_lived created returns first, moved,
      life_of_move (service_move_cases moved) (passage_sound created first).1 returns⟩

/-- A step of the loop comes after the restoration. -/
theorem restored_before_loop (loop : step.move.isLoop = true) :
    ∃ prior ∈ early,
      prior.act? setting index =
          some (.restored
            (setting.plant.backend.restore prior.before.shared.backend).answer) ∧
        prior.after.shared.backend =
          (setting.plant.backend.restore prior.before.shared.backend).state := by
  obtain ⟨lived, _, life⟩ := lived_before_step returns created passage
  have restored := lived.restored
  rw [if_neg (life.begun_of_loop loop)] at restored
  obtain ⟨act, member, restoration⟩ := List.countP_pos_iff.mp (restored ▸ Nat.zero_lt_one)
  obtain ⟨prior, earlier, acts⟩ := List.mem_filterMap.mp member
  cases act with
  | restored answer =>
      have known : prior ∈ early ++ step :: late := List.mem_append_left _ earlier
      obtain ⟨_, rfl, same⟩ := restoration_in_passage passage known acts
      exact ⟨prior, earlier, acts, same⟩
  | fetchBegun | fetchEnded | admitted | called | completed | failed => cases restoration

/-- Any tally counts one restoration from the first start on, and a fetch only after it. -/
theorem asked_in_step {tally : β → Tally} (tallies : setting.Tallies failure tally) :
    (tally step.before.shared.backend).restorations =
        (tally shared.backend).restorations +
          (if early.any fun prior => prior.move.isStart then 1 else 0) ∧
      (tally step.after.shared.backend).restorations =
        (tally shared.backend).restorations +
          (if (early ++ [step]).any fun prior => prior.move.isStart then 1 else 0) ∧
      ((tally step.after.shared.backend).fetches ≠
          (tally step.before.shared.backend).fetches →
        early.any fun prior => prior.move.isStart) := by
  obtain ⟨lived, moved, life⟩ := lived_before_step returns created passage
  obtain ⟨first, _, _⟩ := passage_around passage
  have onward := first.next step.move moved
  refine ⟨?_, ?_, fun begins => ?_⟩
  · rw [tally_after_passage tallies created first, lived.restored_once]
  · rw [tally_after_passage tallies created onward,
      (passage_lived created returns onward).restored_once]
  · by_contra unstarted
    have loop : step.move.isLoop = true := by
      by_contra other
      have governed := (passage_sound created first).2.2
      have same := (tally_after_move tallies governed (service_move_cases moved)).2
      exact begins (same (eq_false_of_ne_true other))
    apply life.begun_of_loop loop
    apply lived.unstarted.mpr
    simpa using unstarted

end Steps

/-- However its calls of start and terminate come between the steps of the loop, of the runners and
of others, and whether the backend restores or refuses to: a processor lives once. -/
theorem processor_lives_once (setting : Setting β η α) (index : Nat)
    (returns : ∀ state, (setting.plant.backend.restore state).hasPanicked = false)
    (created : Processor.new? config failure = some processor)
    (passage : Passage setting index { processor := processor, shared := shared } steps service) :
    LivesOnce setting failure index shared.backend steps := by
  have lived := passage_lived created returns passage
  constructor
  case first_start =>
    rintro early late step now rfl start unstarted
    obtain ⟨lived, moved, _⟩ := lived_before_step returns created passage
    exact accepted_start returns (lived.unstarted.mpr unstarted) start moved
  case later_start =>
    rintro early late step now rfl start ⟨prior, earlier, started⟩
    obtain ⟨lived, moved, _⟩ := lived_before_step returns created passage
    have begun : step.before.processor.state ≠ .created := by
      intro new
      rw [lived.unstarted.mp new prior earlier] at started
      cases started
    exact refused_start begun start moved
  case untimely_termination =>
    rintro early late step rfl terminates untimely
    obtain ⟨lived, moved, _⟩ := lived_before_step returns created passage
    have idle : step.before.processor.state ≠ .running := by
      intro running
      rcases untimely with unstarted | accepted
      · rw [lived.unstarted.mpr unstarted] at running
        cases running
      · rcases lived.ending accepted with ending | ending <;>
          rw [ending] at running <;>
          cases running
    exact refused_termination idle terminates moved
  case in_order =>
    rw [lived.entered]
    exact service.processor.state.up_to_prefix
  case legal =>
    intro step member
    obtain ⟨early, late, rfl⟩ := List.append_of_mem member
    exact (lived_before_step returns created passage).2.2.legal
  case restored_once => exact lived.restored_once
  case restores =>
    intro step member answer act
    exact restoration_in_passage passage member act
  case restored_first =>
    rintro early late step rfl loop
    exact restored_before_loop returns created passage loop
  case unstarted =>
    intro unstarted
    have new := lived.unstarted.mpr unstarted
    exact ⟨lived.unlooped new, lived.unfetched new⟩
  case asked =>
    rintro tally tallies early late step rfl
    exact asked_in_step returns created passage tallies
  case performed =>
    intro step member
    exact passage_performed passage member

end Lives

namespace Rehearsal

def unrestoring : Setting (MemoryQueue Party) Unit TaskMessage :=
  { MemoryQueue.setting handler with
    plant :=
      { backend :=
          { MemoryQueue.backend with
            restore := fun queue =>
              { answer := .error (.refused (.unavailable "down"))
                state := queue
                woken := []
                events := [] } }
        handler := handler } }

/-- The same processor on a backend that keeps a tally. -/
def tallied : Processor (MemoryQueue Party × Tally) where
  config := config
  failure := RetryPolicy.default.reconcile unrestoring.tallying.plant.backend
  state := .created
  crew := processor.crew
  closing := .idle

def sharedTally : Shared (MemoryQueue Party × Tally) Unit where
  backend := (.empty, .none)
  handlers := ()
  journal := .empty
  woken := []

/-- Calls that come too early, in time, and too late. -/
def calls : List (Move TaskMessage) :=
  [.terminate, .start now, .start now, .loop .told now, .outside message, .loop .told now,
    .terminate, .terminate, .start now, .loop .told now]

end Rehearsal

open Rehearsal in
theorem rehearsal_lives_once :
    (∀ state, (unrestoring.tallying.plant.backend.restore state).hasPanicked = false) ∧
      unrestoring.tallying.Tallies tallied.failure Prod.snd ∧
      ∃ last,
        Passage unrestoring.tallying 0 { processor := tallied, shared := sharedTally }
            (Service.transitions unrestoring.tallying 0 calls
              { processor := tallied, shared := sharedTally }) last ∧
          last.shared.backend.2 = { restorations := 1, fetches := 1 } ∧
          LivesOnce unrestoring.tallying tallied.failure 0 sharedTally.backend
            (Service.transitions unrestoring.tallying 0 calls
              { processor := tallied, shared := sharedTally }) := by
  have returns : ∀ state,
      (unrestoring.tallying.plant.backend.restore state).hasPanicked = false := fun _ => rfl
  have created : Processor.new? config tallied.failure = some tallied := rfl
  have ran : ∃ deeds last,
      Service.run unrestoring.tallying 0 calls
          { processor := tallied, shared := sharedTally } = some (deeds, last) ∧
        last.shared.backend.2 = { restorations := 1, fetches := 1 } := ⟨_, _, rfl, rfl⟩
  obtain ⟨deeds, last, ran, asked⟩ := ran
  have passage := passage_of_run ran
  exact
    ⟨returns, tallying_tallies unrestoring RetryPolicy.default, last, passage, asked,
      processor_lives_once unrestoring.tallying 0 returns created passage⟩

end TaskDispatch
