import TaskDispatch.Proofs.Worker.Acts

/-!
# What a step can do

Every step of a dispatch loop, of a runner and of a termination is one of a few cases. Each case
says where the party was, what allowed the step, and what the processor and the backend are
afterwards; acts, handlers and clock readings are left out. Facts about all courses are proved from
these cases.
-/

namespace TaskDispatch

set_option autoImplicit false

section Parties

variable {β η α : Type}

inductive LoopStep (backend : Backend Party β) (index : Nat) :
    Crew → β → Crew → β → Prop where
  | stopped {crew : Crew} {state : β} (checking : crew.loop = .checking)
      (stop : crew.stop = true) :
      LoopStep backend index crew state { crew with loop := .stopped } state
  | overdue {crew : Crew} {state : β} (checking : crew.loop = .checking)
      (going : crew.stop = false) :
      LoopStep backend index crew state { crew with loop := .crashed } state
  | begun {crew : Crew} {state next : β} {timeout : Duration} {now : Moment}
      {events : List Event} (checking : crew.loop = .checking) (going : crew.stop = false)
      (fetch : backend.startFetch (.loop index) timeout now state = some (next, events)) :
      LoopStep backend index crew state { crew with loop := .fetching } next
  | waiting {crew : Crew} {state next : β} {cause : WakeCause} {now : Moment}
      {woken : List Party} (fetching : crew.loop = .fetching)
      (fetch : backend.advanceFetch cause (.loop index) now state =
        some (next, .moved, woken)) :
      LoopStep backend index crew state crew next
  | empty {crew : Crew} {state next : β} {cause : WakeCause} {now : Moment}
      {woken : List Party} {answer : Except CallFailure (Option TaskMessage)}
      (fetching : crew.loop = .fetching)
      (fetch : backend.advanceFetch cause (.loop index) now state =
        some (next, .returned answer, woken))
      (fruitless : answer = .ok none ∨ ∃ error, answer = .error (.refused error)) :
      LoopStep backend index crew state { crew with loop := .checking } next
  | received {crew : Crew} {state next : β} {cause : WakeCause} {now : Moment}
      {woken : List Party} {message : TaskMessage} (fetching : crew.loop = .fetching)
      (fetch : backend.advanceFetch cause (.loop index) now state =
        some (next, .returned (.ok (some message)), woken)) :
      LoopStep backend index crew state { crew with loop := .admitting message false } next
  | panicked {crew : Crew} {state next : β} {cause : WakeCause} {now : Moment}
      {woken : List Party} (fetching : crew.loop = .fetching)
      (fetch : backend.advanceFetch cause (.loop index) now state =
        some (next, .returned (.error .panicked), woken)) :
      LoopStep backend index crew state { crew with loop := .crashed } next
  | admitted {crew : Crew} {state : β} {message : TaskMessage}
      (holding : crew.loop = .admitting message false) (room : 0 < crew.slots.free) :
      LoopStep backend index crew state
        (({ crew with slots := { crew.slots with free := crew.slots.free - 1 } } :
          Crew).assign message) state
  | queued {crew : Crew} {state : β} {message : TaskMessage}
      (holding : crew.loop = .admitting message false) (full : crew.slots.free = 0) :
      LoopStep backend index crew state
        { crew with
          slots := { crew.slots with waiting := crew.slots.waiting ++ [.loop index] }
          loop := .admitting message true } state
  | resumed {crew : Crew} {state : β} {message : TaskMessage}
      (holding : crew.loop = .admitting message true)
      (granted : .loop index ∈ crew.slots.granted) :
      LoopStep backend index crew state
        (({ crew with
          slots := { crew.slots with granted := crew.slots.granted.erase (.loop index) } } :
          Crew).assign message) state

/-- A step is a move without its act and its clock reading. -/
theorem LoopMove.step {backend : Backend Party β} {index : Nat} {timeout : Duration}
    {cause : WakeCause} {now : Moment} {crew next : Crew} {state later : β} {act : Option Act}
    (move : LoopMove backend index timeout cause now crew state act next later) :
    LoopStep backend index crew state next later := by
  cases move with
  | stopped checking stop => exact .stopped checking stop
  | overdue checking going => exact .overdue checking going
  | begun checking going fetch => exact .begun checking going fetch
  | waiting fetching fetch => exact .waiting fetching fetch
  | @answered _ _ answer fetching fetch =>
      rcases answer with (error | _) | (_ | message)
      · exact .empty fetching fetch (.inr ⟨error, rfl⟩)
      · exact .panicked fetching fetch
      · exact .empty fetching fetch (.inl rfl)
      · exact .received fetching fetch
  | admitted holding room => exact .admitted holding room
  | queued holding full => exact .queued holding full
  | resumed holding granted => exact .resumed holding granted

theorem loop_step_cases {plant : Plant β η} {index : Nat} {timeout : Duration}
    {cause : WakeCause} {now : Moment} {crew next : Crew} {shared later : Shared β η}
    (advanced : crew.advanceLoop plant index timeout cause now shared = some (next, later)) :
    LoopStep plant.backend index crew shared.backend next later.backend :=
  (loop_move_cases advanced).1.step

inductive RunnerStep (backend : Backend Party β) (failure : FailureHandler Party β)
    (ticket : Nat) : Crew → β → Crew → β → Prop where
  | called {crew : Crew} {state : β} {runner : Runner} {finish : Nat} {call : HandlerCall}
      (found : crew.runnerOf? ticket = some runner) (ready : runner.stage = .ready) :
      RunnerStep backend failure ticket crew state
        (crew.setRunner { runner with stage := .handling finish call }) state
  | handled {crew : Crew} {state : β} {runner : Runner} {finish : Nat} {call : HandlerCall}
      (found : crew.runnerOf? ticket = some runner)
      (handling : runner.stage = .handling finish call) :
      RunnerStep backend failure ticket crew state
        (crew.setRunner { runner with stage := .reporting call.verdict.result }) state
  | completed {crew : Crew} {state : β} {runner : Runner}
      (found : crew.runnerOf? ticket = some runner)
      (succeeded : runner.stage = .reporting (.ok ())) :
      RunnerStep backend failure ticket crew state
        (crew.setRunner
          { runner with
            stage :=
              if (backend.complete runner.message state).hasPanicked then .crashed
              else .reported })
        (backend.complete runner.message state).state
  | failed {crew : Crew} {state : β} {runner : Runner} {error : TaskError} {now : Moment}
      {draw : Nat} (found : crew.runnerOf? ticket = some runner)
      (failed : runner.stage = .reporting (.error error)) :
      RunnerStep backend failure ticket crew state
        (crew.setRunner
          { runner with
            stage :=
              if (failure runner.message error now draw state).panicked then .crashed
              else .reported })
        (failure runner.message error now draw state).state
  | retired {crew : Crew} {state : β} {runner : Runner}
      (found : crew.runnerOf? ticket = some runner)
      (ended : runner.stage.hasEnded = true) :
      RunnerStep backend failure ticket crew state
        { crew with
          slots := crew.slots.release.1
          runners := crew.runners.filter fun other => other.ticket != ticket } state

theorem RunnerMove.step {plant : Plant β η} {failure : FailureHandler Party β}
    {ticket draw : Nat} {now : Moment} {crew next : Crew} {state later : β}
    {handlers changed : η} {act : Option Act}
    (move : RunnerMove plant failure ticket draw now crew state handlers act next later changed) :
    RunnerStep plant.backend failure ticket crew state next later := by
  cases move with
  | called found ready => exact .called found ready
  | handled found handling => exact .handled found handling
  | completed found succeeded => exact .completed found succeeded
  | failed found failed => exact .failed found failed
  | retired found ended => exact .retired found ended

theorem runner_step_cases {plant : Plant β η} {failure : FailureHandler Party β}
    {draw ticket : Nat} {now : Moment} {crew next : Crew} {shared later : Shared β η}
    (advanced : crew.advanceRunner plant failure draw now ticket shared =
      some (next, later)) :
    RunnerStep plant.backend failure ticket crew shared.backend next later.backend :=
  (runner_move_cases advanced).step

inductive ServiceStep (setting : Setting β η α) (index : Nat) :
    Processor β → β → Option (Deed α) → Processor β → β → Prop where
  | refused {processor : Processor β} {state : β} :
      ServiceStep setting index processor state none processor state
  | unrestored {processor : Processor β} {state : β} (created : processor.state = .created)
      (panicked : (setting.plant.backend.restore state).hasPanicked = true) :
      ServiceStep setting index processor state none processor
        (setting.plant.backend.restore state).state
  | started {processor : Processor β} {state : β} (created : processor.state = .created) :
      ServiceStep setting index processor state none
        { processor with
          state := .running
          crew := { processor.crew with loop := .checking } }
        (setting.plant.backend.restore state).state
  | dispatched {processor : Processor β} {state next : β} {crew : Crew}
      (step : LoopStep setting.plant.backend index processor.crew state crew next) :
      ServiceStep setting index processor state (processor.crew.loopDeed? crew)
        { processor with crew := crew } next
  | executed {processor : Processor β} {state next : β} {crew : Crew} {ticket : Nat}
      (step : RunnerStep setting.plant.backend processor.failure ticket processor.crew state
        crew next) :
      ServiceStep setting index processor state (processor.crew.runnerDeed? ticket crew)
        { processor with crew := crew } next
  | terminating {processor : Processor β} {state : β} (running : processor.state = .running) :
      ServiceStep setting index processor state none
        { processor with
          state := .terminating
          crew := { processor.crew with stop := true }
          closing := .joining } state
  | closed {processor next : Processor β} {state : β}
      (step : ClosingStep index processor next) :
      ServiceStep setting index processor state none next state
  | dropped {processor : Processor β} {state : β} (running : processor.state = .running) :
      ServiceStep setting index processor state none
        { processor with crew := { processor.crew with stop := true } } state
  | acted {processor : Processor β} {state : β} (action : α) :
      ServiceStep setting index processor state (some (.outside action)) processor
        (setting.outside action state).1

theorem service_step_cases {setting : Setting β η α} {index : Nat} {service later : Service β η}
    {move : Move α} (moved : service.after? setting index move = some later) :
    ServiceStep setting index service.processor service.shared.backend
      (service.deed? move later) later.processor later.shared.backend := by
  cases move with
  | start now =>
      simp only [Service.after?, Processor.start, ProcessorState.ensureCanBecome] at moved
      by_cases allowed : service.processor.state.canBecome .running = true
      · have created := created_of_can_run allowed
        simp only [if_pos allowed] at moved
        by_cases panicked : (setting.plant.backend.restore service.shared.backend).hasPanicked
        · simp only [Shared.log, panicked, if_true, Option.some.injEq] at moved
          subst moved
          exact .unrestored created panicked
        · simp only [Shared.log, panicked, Bool.false_eq_true, if_false,
            Option.some.injEq] at moved
          subst moved
          exact .started created
      · simp only [if_neg allowed, Option.some.injEq] at moved
        subst moved
        exact .refused
  | loop cause now =>
      simp only [Service.after?, Option.map_eq_some_iff, Prod.exists] at moved
      obtain ⟨crew, shared, advanced, rfl⟩ := moved
      exact .dispatched (loop_step_cases advanced)
  | runner ticket draw now =>
      simp only [Service.after?, Option.map_eq_some_iff, Prod.exists] at moved
      obtain ⟨crew, shared, advanced, rfl⟩ := moved
      exact .executed (runner_step_cases advanced)
  | terminate =>
      simp only [Service.after?, Processor.terminate, ProcessorState.ensureCanBecome] at moved
      by_cases allowed : service.processor.state.canBecome .terminating = true
      · have running := running_of_can_terminate allowed
        simp only [if_pos allowed, Except.bind, bind, Option.some.injEq] at moved
        subst moved
        exact .terminating running
      · simp only [if_neg allowed, Except.bind, bind, Option.some.injEq] at moved
        subst moved
        exact .refused
  | close =>
      simp only [Service.after?, Option.map_eq_some_iff, Prod.exists] at moved
      obtain ⟨processor, shared, advanced, rfl⟩ := moved
      obtain ⟨step, same, _⟩ := closing_step_cases advanced
      simp only [same]
      exact .closed step
  | abandon =>
      simp only [Service.after?, Processor.abandon, Option.some.injEq] at moved
      subst moved
      by_cases running : service.processor.state = .running
      · simp only [if_pos running]
        exact .dropped running
      · simp only [if_neg running]
        exact .refused
  | outside action =>
      simp only [Service.after?, Option.some.injEq] at moved
      subst moved
      exact .acted action

/-- What holds of a service at first, and is kept by every step with its deed, holds all along. -/
theorem course_keeps {setting : Setting β η α} {index : Nat} {origin last : Service β η}
    {deeds : List (Deed α)} (kept : List (Deed α) → Processor β → β → Prop)
    (course : Course setting index origin deeds last)
    (initially : kept [] origin.processor origin.shared.backend)
    (keeps : ∀ (deeds : List (Deed α)) (processor later : Processor β) (state next : β)
      (deed : Option (Deed α)),
      ServiceStep setting index processor state deed later next →
        kept deeds processor state → kept (deeds ++ deed.toList) later next) :
    kept deeds last.processor last.shared.backend := by
  induction course with
  | begin => exact initially
  | next _ move moved ih => exact keeps _ _ _ _ _ _ (service_step_cases moved) ih

/-- The settings and the failure handler of a processor stay what they are. -/
theorem service_step_settings {setting : Setting β η α} {index : Nat}
    {processor later : Processor β} {state next : β} {deed : Option (Deed α)}
    (step : ServiceStep setting index processor state deed later next) :
    later.config = processor.config ∧ later.failure = processor.failure := by
  cases step with
  | closed step =>
      cases step with
      | joined | taken | finished | given | queued => exact ⟨rfl, rfl⟩
  | refused | unrestored | started | dispatched | executed | terminating | dropped | acted =>
      exact ⟨rfl, rfl⟩

theorem course_settings {setting : Setting β η α} {index : Nat} {origin last : Service β η}
    {deeds : List (Deed α)} (course : Course setting index origin deeds last) :
    last.processor.config = origin.processor.config ∧
      last.processor.failure = origin.processor.failure := by
  refine course_keeps
    (fun _ processor _ => processor.config = origin.processor.config ∧
      processor.failure = origin.processor.failure) course ⟨rfl, rfl⟩ ?_
  intro deeds processor later state next deed step before
  obtain ⟨config, failure⟩ := service_step_settings step
  exact ⟨config.trans before.1, failure.trans before.2⟩

/-- A move without a call leaves the backend to what others do to it. -/
theorem backend_without_call {setting : Setting β η α} {index : Nat}
    {service later : Service β η} {move : Move α} (quiet : service.callsBackend move = false)
    (own : ∀ action, move ≠ .outside action)
    (moved : service.after? setting index move = some later) :
    later.shared.backend = service.shared.backend := by
  cases move with
  | start now =>
      have refused : service.processor.state.canBecome .running = false := quiet
      simp only [Service.after?, Processor.start, ProcessorState.ensureCanBecome, refused,
        Bool.false_eq_true, if_false, Option.some.injEq] at moved
      rw [moved]
  | loop cause now =>
      simp only [Service.after?, Option.map_eq_some_iff, Prod.exists] at moved
      obtain ⟨crew, shared, advanced, rfl⟩ := moved
      have step := loop_step_cases advanced
      generalize shared.backend = next at step
      cases step with
      | stopped | overdue | admitted | queued | resumed => rfl
      | begun checking going => simp [Service.callsBackend, checking, going] at quiet
      | waiting fetching | empty fetching | received fetching | panicked fetching =>
          simp [Service.callsBackend, fetching] at quiet
  | runner ticket draw now =>
      simp only [Service.after?, Option.map_eq_some_iff, Prod.exists] at moved
      obtain ⟨crew, shared, advanced, rfl⟩ := moved
      have step := runner_step_cases advanced
      generalize shared.backend = next at step
      cases step with
      | called | handled | retired => rfl
      | completed found reporting | failed found reporting =>
          simp [Service.callsBackend, found, reporting] at quiet
  | terminate =>
      simp only [Service.after?, Processor.terminate, ProcessorState.ensureCanBecome] at moved
      by_cases allowed : service.processor.state.canBecome .terminating = true
      · simp only [if_pos allowed, Except.bind, bind, Option.some.injEq] at moved
        rw [← moved]
        rfl
      · simp only [if_neg allowed, Except.bind, bind, Option.some.injEq] at moved
        rw [moved]
  | close =>
      simp only [Service.after?, Option.map_eq_some_iff, Prod.exists] at moved
      obtain ⟨processor, shared, advanced, rfl⟩ := moved
      exact (closing_step_cases advanced).2.1
  | abandon =>
      simp only [Service.after?, Processor.abandon, Option.some.injEq] at moved
      rw [← moved]
      split <;> rfl
  | outside action => exact absurd rfl (own action)

end Parties

end TaskDispatch
