import Mathlib.Tactic.Common
import TaskDispatch.Proofs.Worker.Course

/-!
# What a processor does

The acts of a processor are what others notice of it: its calls of the backend, of the handler and
of the failure handler, and the handing over of a message with a slot. Each step has at most one
act. The cases of a step say for every move what allowed it, its act, and what the processor, the
backend and the handlers are afterwards; so nobody is called but as the acts say.
-/

namespace TaskDispatch

set_option autoImplicit false

/-- What a processor does to others: it has the backend restore; it begins a fetch, or a fetch
brings its answer; it hands a message with a slot to a new runner; a runner calls the handler, which
takes the course of `call`; or a runner reports its message as completed or as failed. -/
inductive Act where
  | restored (answer : Except CallFailure Nat)
  | fetchBegun
  | fetchEnded (answer : Except CallFailure (Option TaskMessage))
  | admitted (assignment : Assignment)
  | called (assignment : Assignment) (task : Task) (call : HandlerCall)
  | completed (assignment : Assignment)
  | failed (assignment : Assignment) (error : TaskError)

namespace Act

def received? : Act → Option TaskMessage
  | .fetchEnded (.ok found) => found
  | _ => none

def admitted? : Act → Option Assignment
  | .admitted assignment => some assignment
  | _ => none

def assignment? : Act → Option Assignment
  | .admitted assignment => some assignment
  | .called assignment _ _ => some assignment
  | .completed assignment => some assignment
  | .failed assignment _ => some assignment
  | _ => none

def isRestoration : Act → Bool
  | .restored _ => true
  | _ => false

def isFetchBegun : Act → Bool
  | .fetchBegun => true
  | _ => false

def isFetchEnded : Act → Bool
  | .fetchEnded _ => true
  | _ => false

end Act

def Assignment.report (assignment : Assignment) : Except TaskError Unit → Act
  | .ok () => .completed assignment
  | .error error => .failed assignment error

def LoopStage.afterAnswer : Except CallFailure (Option TaskMessage) → LoopStage
  | .ok none => .checking
  | .ok (some message) => .admitting message false
  | .error (.refused _) => .checking
  | .error .panicked => .crashed

namespace Crew

variable {β η : Type}

def nextAssignment (crew : Crew) (message : TaskMessage) : Assignment where
  ticket := crew.nextTicket
  message := message

def loopAct? (backend : Backend Party β) (index : Nat) (cause : WakeCause) (now : Moment)
    (crew : Crew) (state : β) : Option Act :=
  match crew.loop with
  | .checking => if crew.stop then none else some .fetchBegun
  | .fetching =>
      match backend.advanceFetch cause (.loop index) now state with
      | some (_, .returned answer, _) => some (.fetchEnded answer)
      | _ => none
  | .admitting message false =>
      if 0 < crew.slots.free then some (.admitted (crew.nextAssignment message)) else none
  | .admitting message true => some (.admitted (crew.nextAssignment message))
  | _ => none

def runnerAct? (handler : Handler η) (ticket : Nat) (crew : Crew) (handlers : η) : Option Act :=
  (crew.runnerOf? ticket).bind fun runner =>
    match runner.stage with
    | .ready =>
        some
          (.called runner.assignment runner.message.task
            (handler runner.message.task handlers).1)
    | .reporting result => some (runner.assignment.report result)
    | _ => none

end Crew

def Service.act? {β η α : Type} (setting : Setting β η α) (index : Nat) (service : Service β η) :
    Move α → Option Act
  | .start _ =>
      if service.processor.state.canBecome .running then
        some (.restored (setting.plant.backend.restore service.shared.backend).answer)
      else none
  | .loop cause now =>
      service.processor.crew.loopAct? setting.plant.backend index cause now
        service.shared.backend
  | .runner ticket _ _ =>
      service.processor.crew.runnerAct? setting.plant.handler ticket service.shared.handlers
  | _ => none

def Crew.assign (message : TaskMessage) (crew : Crew) : Crew :=
  { crew with
    loop := .checking
    runners := crew.runners
      ++ [{ ticket := crew.nextTicket, message := message, stage := .ready }]
    nextTicket := crew.nextTicket + 1 }

section Parties

variable {β η α : Type}

inductive LoopMove (backend : Backend Party β) (index : Nat) (timeout : Duration)
    (cause : WakeCause) (now : Moment) : Crew → β → Option Act → Crew → β → Prop where
  | stopped {crew : Crew} {state : β} (checking : crew.loop = .checking)
      (stop : crew.stop = true) :
      LoopMove backend index timeout cause now crew state none { crew with loop := .stopped } state
  | overdue {crew : Crew} {state : β} (checking : crew.loop = .checking)
      (going : crew.stop = false)
      (fetch : backend.startFetch (.loop index) timeout now state = none) :
      LoopMove backend index timeout cause now crew state (some .fetchBegun)
        { crew with loop := .crashed } state
  | begun {crew : Crew} {state next : β} {events : List Event}
      (checking : crew.loop = .checking) (going : crew.stop = false)
      (fetch : backend.startFetch (.loop index) timeout now state = some (next, events)) :
      LoopMove backend index timeout cause now crew state (some .fetchBegun)
        { crew with loop := .fetching } next
  | waiting {crew : Crew} {state next : β} {woken : List Party}
      (fetching : crew.loop = .fetching)
      (fetch : backend.advanceFetch cause (.loop index) now state = some (next, .moved, woken)) :
      LoopMove backend index timeout cause now crew state none crew next
  | answered {crew : Crew} {state next : β} {woken : List Party}
      {answer : Except CallFailure (Option TaskMessage)} (fetching : crew.loop = .fetching)
      (fetch : backend.advanceFetch cause (.loop index) now state =
        some (next, .returned answer, woken)) :
      LoopMove backend index timeout cause now crew state (some (.fetchEnded answer))
        { crew with loop := .afterAnswer answer } next
  | admitted {crew : Crew} {state : β} {message : TaskMessage}
      (holding : crew.loop = .admitting message false) (room : 0 < crew.slots.free) :
      LoopMove backend index timeout cause now crew state
        (some (.admitted (crew.nextAssignment message)))
        (({ crew with slots := { crew.slots with free := crew.slots.free - 1 } } : Crew).assign
          message) state
  | queued {crew : Crew} {state : β} {message : TaskMessage}
      (holding : crew.loop = .admitting message false) (full : crew.slots.free = 0) :
      LoopMove backend index timeout cause now crew state none
        { crew with
          slots := { crew.slots with waiting := crew.slots.waiting ++ [.loop index] }
          loop := .admitting message true } state
  | resumed {crew : Crew} {state : β} {message : TaskMessage}
      (holding : crew.loop = .admitting message true)
      (granted : .loop index ∈ crew.slots.granted) :
      LoopMove backend index timeout cause now crew state
        (some (.admitted (crew.nextAssignment message)))
        (({ crew with
            slots :=
              { crew.slots with granted := crew.slots.granted.erase (.loop index) } } :
          Crew).assign message) state

theorem loop_move_cases {plant : Plant β η} {index : Nat} {timeout : Duration}
    {cause : WakeCause} {now : Moment} {crew next : Crew} {shared later : Shared β η}
    (advanced : crew.advanceLoop plant index timeout cause now shared = some (next, later)) :
    LoopMove plant.backend index timeout cause now crew shared.backend
        (crew.loopAct? plant.backend index cause now shared.backend) next later.backend ∧
      later.handlers = shared.handlers := by
  unfold Crew.advanceLoop at advanced
  unfold Crew.loopAct?
  cases loop : crew.loop with
  | idle => simp [loop] at advanced
  | stopped => simp [loop] at advanced
  | crashed => simp [loop] at advanced
  | checking =>
      simp only [loop, Crew.check, Option.some.injEq] at advanced
      by_cases stop : crew.stop = true
      · simp only [if_pos stop, Prod.mk.injEq] at advanced ⊢
        obtain ⟨rfl, rfl⟩ := advanced
        exact ⟨.stopped loop stop, rfl⟩
      · have going : crew.stop = false := eq_false_of_ne_true stop
        simp only [if_neg stop] at advanced ⊢
        cases fetch : plant.backend.startFetch (.loop index) timeout now shared.backend with
        | none =>
            simp only [fetch, Crew.crash, Prod.mk.injEq] at advanced
            obtain ⟨rfl, rfl⟩ := advanced
            exact ⟨.overdue loop going fetch, rfl⟩
        | some begun =>
            simp only [fetch, Prod.mk.injEq] at advanced
            obtain ⟨rfl, rfl⟩ := advanced
            exact ⟨.begun loop going fetch, rfl⟩
  | fetching =>
      simp only [loop, Option.bind_eq_bind, Option.bind_eq_some_iff, Prod.exists] at advanced
      obtain ⟨state, step, woken, fetch, advanced⟩ := advanced
      simp only [fetch]
      cases step with
      | moved =>
          simp only [Option.some.injEq, Prod.mk.injEq] at advanced
          obtain ⟨rfl, rfl⟩ := advanced
          exact ⟨.waiting loop fetch, rfl⟩
      | returned answer =>
          simp only [Option.some.injEq] at advanced
          have move : LoopMove plant.backend index timeout cause now crew shared.backend
              (some (.fetchEnded answer)) { crew with loop := .afterAnswer answer } state :=
            .answered loop fetch
          rcases answer with (error | _) | (_ | message) <;>
            simp only [Crew.receive, Crew.crash, Prod.mk.injEq] at advanced <;>
            obtain ⟨rfl, rfl⟩ := advanced <;>
            exact ⟨move, rfl⟩
  | admitting message queued =>
      cases queued with
      | false =>
          by_cases room : 0 < crew.slots.free
          · simp only [loop, Slots.request, room, if_true, Crew.spawn, Option.some.injEq,
              Prod.mk.injEq] at advanced
            obtain ⟨rfl, rfl⟩ := advanced
            refine ⟨?_, rfl⟩
            simp only [room, if_true]
            exact .admitted loop room
          · simp only [loop, Slots.request, room, if_false, Bool.false_eq_true,
              Option.some.injEq, Prod.mk.injEq] at advanced
            obtain ⟨rfl, rfl⟩ := advanced
            refine ⟨?_, rfl⟩
            simp only [room, if_false]
            exact .queued loop (Nat.eq_zero_of_not_pos room)
      | true =>
          by_cases granted : Party.loop index ∈ crew.slots.granted
          · simp only [loop, Slots.takeGranted?, granted, if_true, Option.bind_eq_bind,
              Option.bind_some, Crew.spawn, Option.some.injEq, Prod.mk.injEq] at advanced
            obtain ⟨rfl, rfl⟩ := advanced
            exact ⟨.resumed loop granted, rfl⟩
          · simp [loop, Slots.takeGranted?, granted] at advanced

inductive RunnerMove (plant : Plant β η) (failure : FailureHandler Party β) (ticket draw : Nat)
    (now : Moment) : Crew → β → η → Option Act → Crew → β → η → Prop where
  | called {crew : Crew} {state : β} {handlers changed : η} {runner : Runner}
      {call : HandlerCall} (found : crew.runnerOf? ticket = some runner)
      (ready : runner.stage = .ready)
      (answer : plant.handler runner.message.task handlers = (call, changed)) :
      RunnerMove plant failure ticket draw now crew state handlers
        (some (.called runner.assignment runner.message.task call))
        (crew.setRunner { runner with stage := .handling (now.clock + call.pause) call })
        state changed
  | handled {crew : Crew} {state : β} {handlers : η} {runner : Runner} {finish : Nat}
      {call : HandlerCall} (found : crew.runnerOf? ticket = some runner)
      (handling : runner.stage = .handling finish call) (past : finish ≤ now.clock) :
      RunnerMove plant failure ticket draw now crew state handlers none
        (crew.setRunner { runner with stage := .reporting call.verdict.result }) state handlers
  | completed {crew : Crew} {state : β} {handlers : η} {runner : Runner}
      (found : crew.runnerOf? ticket = some runner)
      (succeeded : runner.stage = .reporting (.ok ())) :
      RunnerMove plant failure ticket draw now crew state handlers
        (some (.completed runner.assignment))
        (crew.setRunner
          { runner with
            stage :=
              if (plant.backend.complete runner.message state).hasPanicked then .crashed
              else .reported })
        (plant.backend.complete runner.message state).state handlers
  | failed {crew : Crew} {state : β} {handlers : η} {runner : Runner} {error : TaskError}
      (found : crew.runnerOf? ticket = some runner)
      (failed : runner.stage = .reporting (.error error)) :
      RunnerMove plant failure ticket draw now crew state handlers
        (some (.failed runner.assignment error))
        (crew.setRunner
          { runner with
            stage :=
              if (failure runner.message error now draw state).panicked then .crashed
              else .reported })
        (failure runner.message error now draw state).state handlers
  | retired {crew : Crew} {state : β} {handlers : η} {runner : Runner}
      (found : crew.runnerOf? ticket = some runner) (ended : runner.stage.hasEnded = true) :
      RunnerMove plant failure ticket draw now crew state handlers none
        { crew with
          slots := crew.slots.release.1
          runners := crew.runners.filter fun other => other.ticket != ticket } state handlers

theorem runner_move_cases {plant : Plant β η} {failure : FailureHandler Party β}
    {ticket draw : Nat} {now : Moment} {crew next : Crew} {shared later : Shared β η}
    (advanced : crew.advanceRunner plant failure draw now ticket shared =
      some (next, later)) :
    RunnerMove plant failure ticket draw now crew shared.backend shared.handlers
      (crew.runnerAct? plant.handler ticket shared.handlers) next later.backend
      later.handlers := by
  simp only [Crew.advanceRunner, Option.bind_eq_bind, Option.bind_eq_some_iff] at advanced
  obtain ⟨runner, found, advanced⟩ := advanced
  simp only [Crew.runnerAct?, found, Option.bind_some]
  unfold Runner.advance at advanced
  cases stage : runner.stage with
  | ready =>
      simp only [stage, RunnerStage.hasEnded, Bool.false_eq_true, if_false, Runner.callHandler,
        Option.bind_some, Option.some.injEq, Prod.mk.injEq] at advanced
      obtain ⟨rfl, rfl⟩ := advanced
      exact .called found stage rfl
  | handling finish call =>
      simp only [stage, RunnerStage.hasEnded, Bool.false_eq_true, if_false,
        Option.bind_eq_some_iff, Option.ite_none_right_eq_some, Option.some.injEq, Prod.exists,
        Prod.mk.injEq] at advanced
      obtain ⟨_, _, ⟨past, rfl, rfl⟩, rfl, rfl⟩ := advanced
      exact .handled found stage past
  | reporting result =>
      cases result with
      | ok =>
          simp only [stage, RunnerStage.hasEnded, Bool.false_eq_true, if_false,
            Runner.reportSuccess, Option.bind_some, Option.some.injEq,
            Prod.mk.injEq] at advanced
          obtain ⟨rfl, rfl⟩ := advanced
          exact .completed found stage
      | error error =>
          simp only [stage, RunnerStage.hasEnded, Bool.false_eq_true, if_false,
            Runner.reportFailure, Option.bind_some, Option.some.injEq,
            Prod.mk.injEq] at advanced
          obtain ⟨rfl, rfl⟩ := advanced
          exact .failed found stage
  | reported | crashed =>
      simp only [stage, RunnerStage.hasEnded, if_true, Crew.retire, Option.some.injEq,
        Prod.mk.injEq] at advanced
      obtain ⟨rfl, rfl⟩ := advanced
      exact .retired found (by rw [stage]; rfl)

inductive ClosingStep (index : Nat) : Processor β → Processor β → Prop where
  | joined {processor : Processor β} (joining : processor.closing = .joining)
      (ended : processor.crew.loop.hasEnded = true) :
      ClosingStep index processor
        { processor with
          closing :=
            if processor.crew.slots.capacity ≤ drainLimit then .draining 0 false
            else .crashed }
  | taken {processor : Processor β} {gathered : Nat}
      (draining : processor.closing = .draining gathered true)
      (granted : .owner index ∈ processor.crew.slots.granted) :
      ClosingStep index processor
        { processor with
          crew :=
            { processor.crew with
              slots :=
                { processor.crew.slots with
                  granted := processor.crew.slots.granted.erase (.owner index) } }
          closing := .draining (gathered + 1) false }
  | finished {processor : Processor β} {gathered : Nat}
      (draining : processor.closing = .draining gathered false)
      (all : gathered = processor.crew.slots.capacity) :
      ClosingStep index processor
        { processor with
          state := .terminated
          crew :=
            { processor.crew with slots := (processor.crew.slots.releaseMany gathered).1 }
          closing := .idle }
  | given {processor : Processor β} {gathered : Nat}
      (draining : processor.closing = .draining gathered false)
      (missing : gathered ≠ processor.crew.slots.capacity)
      (room : 0 < processor.crew.slots.free) :
      ClosingStep index processor
        { processor with
          crew :=
            { processor.crew with
              slots :=
                { processor.crew.slots with free := processor.crew.slots.free - 1 } }
          closing := .draining (gathered + 1) false }
  | queued {processor : Processor β} {gathered : Nat}
      (draining : processor.closing = .draining gathered false)
      (missing : gathered ≠ processor.crew.slots.capacity)
      (full : processor.crew.slots.free = 0) :
      ClosingStep index processor
        { processor with
          crew :=
            { processor.crew with
              slots :=
                { processor.crew.slots with
                  waiting := processor.crew.slots.waiting ++ [.owner index] } }
          closing := .draining gathered true }

theorem closing_step_cases {index : Nat} {processor next : Processor β}
    {shared later : Shared β η}
    (advanced : processor.advanceClosing index shared = some (next, later)) :
    ClosingStep index processor next ∧ later.backend = shared.backend ∧
      later.handlers = shared.handlers := by
  unfold Processor.advanceClosing at advanced
  cases closing : processor.closing with
  | idle => simp [closing] at advanced
  | crashed => simp [closing] at advanced
  | joining =>
      simp only [closing, Option.ite_none_right_eq_some, Option.some.injEq,
        Prod.mk.injEq] at advanced
      obtain ⟨ended, rfl, rfl⟩ := advanced
      exact ⟨.joined closing ended, rfl, rfl⟩
  | draining gathered queued =>
      cases queued with
      | true =>
          by_cases granted : Party.owner index ∈ processor.crew.slots.granted
          · simp only [closing, Slots.takeGranted?, granted, if_true, Option.bind_eq_bind,
              Option.bind_some, Option.some.injEq, Prod.mk.injEq] at advanced
            obtain ⟨rfl, rfl⟩ := advanced
            exact ⟨.taken closing granted, rfl, rfl⟩
          · simp [closing, Slots.takeGranted?, granted] at advanced
      | false =>
          by_cases all : gathered = processor.crew.slots.capacity
          · simp only [closing, if_pos all, Option.some.injEq, Prod.mk.injEq] at advanced
            obtain ⟨rfl, rfl⟩ := advanced
            exact ⟨.finished closing all, rfl, rfl⟩
          · by_cases room : 0 < processor.crew.slots.free
            · simp only [closing, if_neg all, Slots.request, room, if_true,
                Option.some.injEq, Prod.mk.injEq] at advanced
              obtain ⟨rfl, rfl⟩ := advanced
              exact ⟨.given closing all room, rfl, rfl⟩
            · simp only [closing, if_neg all, Slots.request, room, if_false,
                Bool.false_eq_true, Option.some.injEq, Prod.mk.injEq] at advanced
              obtain ⟨rfl, rfl⟩ := advanced
              exact ⟨.queued closing all (Nat.eq_zero_of_not_pos room), rfl, rfl⟩

inductive ServiceMove (setting : Setting β η α) (index : Nat) :
    Processor β → β → η → Move α → Option Act → Processor β → β → η → Prop where
  | startRefused {processor : Processor β} {state : β} {handlers : η} {now : Moment}
      (begun : processor.state ≠ .created) :
      ServiceMove setting index processor state handlers (.start now) none processor state handlers
  | startPanicked {processor : Processor β} {state : β} {handlers : η} {now : Moment}
      (created : processor.state = .created)
      (panicked : (setting.plant.backend.restore state).hasPanicked = true) :
      ServiceMove setting index processor state handlers (.start now)
        (some (.restored (setting.plant.backend.restore state).answer)) processor
        (setting.plant.backend.restore state).state handlers
  | started {processor : Processor β} {state : β} {handlers : η} {now : Moment}
      (created : processor.state = .created)
      (answered : (setting.plant.backend.restore state).hasPanicked = false) :
      ServiceMove setting index processor state handlers (.start now)
        (some (.restored (setting.plant.backend.restore state).answer))
        { processor with
          state := .running
          crew := { processor.crew with loop := .checking } }
        (setting.plant.backend.restore state).state handlers
  | dispatched {processor : Processor β} {state next : β} {handlers : η} {cause : WakeCause}
      {now : Moment} {act : Option Act} {crew : Crew}
      (move : LoopMove setting.plant.backend index processor.config.dequeueTimeout cause now
        processor.crew state act crew next) :
      ServiceMove setting index processor state handlers (.loop cause now) act
        { processor with crew := crew } next handlers
  | executed {processor : Processor β} {state next : β} {handlers called : η}
      {ticket draw : Nat} {now : Moment} {act : Option Act} {crew : Crew}
      (move : RunnerMove setting.plant processor.failure ticket draw now processor.crew state
        handlers act crew next called) :
      ServiceMove setting index processor state handlers (.runner ticket draw now) act
        { processor with crew := crew } next called
  | terminationRefused {processor : Processor β} {state : β} {handlers : η}
      (idle : processor.state ≠ .running) :
      ServiceMove setting index processor state handlers .terminate none processor state handlers
  | terminating {processor : Processor β} {state : β} {handlers : η}
      (running : processor.state = .running) :
      ServiceMove setting index processor state handlers .terminate none
        { processor with
          state := .terminating
          crew := { processor.crew with stop := true }
          closing := .joining } state handlers
  | closed {processor next : Processor β} {state : β} {handlers : η}
      (step : ClosingStep index processor next) :
      ServiceMove setting index processor state handlers .close none next state handlers
  | keptOn {processor : Processor β} {state : β} {handlers : η}
      (idle : processor.state ≠ .running) :
      ServiceMove setting index processor state handlers .abandon none processor state handlers
  | dropped {processor : Processor β} {state : β} {handlers : η}
      (running : processor.state = .running) :
      ServiceMove setting index processor state handlers .abandon none
        { processor with crew := { processor.crew with stop := true } } state handlers
  | acted {processor : Processor β} {state : β} {handlers : η} (action : α) :
      ServiceMove setting index processor state handlers (.outside action) none processor
        (setting.outside action state).1 handlers

theorem created_of_can_run {state : ProcessorState} (allowed : state.canBecome .running = true) :
    state = .created := by
  cases state <;> simp [ProcessorState.canBecome] at allowed ⊢

theorem running_of_can_terminate {state : ProcessorState}
    (allowed : state.canBecome .terminating = true) : state = .running := by
  cases state <;> simp [ProcessorState.canBecome] at allowed ⊢

theorem service_move_cases {setting : Setting β η α} {index : Nat} {service later : Service β η}
    {move : Move α} (moved : service.after? setting index move = some later) :
    ServiceMove setting index service.processor service.shared.backend service.shared.handlers
      move (service.act? setting index move) later.processor later.shared.backend
      later.shared.handlers := by
  cases move with
  | start now =>
      simp only [Service.after?, Processor.start, ProcessorState.ensureCanBecome] at moved
      simp only [Service.act?]
      by_cases allowed : service.processor.state.canBecome .running = true
      · have created := created_of_can_run allowed
        simp only [if_pos allowed] at moved ⊢
        by_cases panicked :
            (setting.plant.backend.restore service.shared.backend).hasPanicked = true
        · simp only [Shared.log, panicked, if_true, Option.some.injEq] at moved
          subst moved
          exact .startPanicked created panicked
        · simp only [Shared.log, panicked, Bool.false_eq_true, if_false,
            Option.some.injEq] at moved
          subst moved
          exact .started created (eq_false_of_ne_true panicked)
      · simp only [if_neg allowed, Option.some.injEq] at moved ⊢
        subst moved
        apply ServiceMove.startRefused
        intro created
        rw [created] at allowed
        exact allowed rfl
  | loop cause now =>
      simp only [Service.after?, Option.map_eq_some_iff, Prod.exists] at moved
      obtain ⟨crew, shared, advanced, rfl⟩ := moved
      obtain ⟨move, handlers⟩ := loop_move_cases advanced
      rw [handlers]
      exact .dispatched move
  | runner ticket draw now =>
      simp only [Service.after?, Option.map_eq_some_iff, Prod.exists] at moved
      obtain ⟨crew, shared, advanced, rfl⟩ := moved
      exact .executed (runner_move_cases advanced)
  | terminate =>
      simp only [Service.after?, Processor.terminate, ProcessorState.ensureCanBecome] at moved
      by_cases allowed : service.processor.state.canBecome .terminating = true
      · simp only [if_pos allowed, Except.bind, bind, Option.some.injEq] at moved
        subst moved
        exact .terminating (running_of_can_terminate allowed)
      · simp only [if_neg allowed, Except.bind, bind, Option.some.injEq] at moved
        subst moved
        apply ServiceMove.terminationRefused
        intro running
        rw [running] at allowed
        exact allowed rfl
  | close =>
      simp only [Service.after?, Option.map_eq_some_iff, Prod.exists] at moved
      obtain ⟨processor, shared, advanced, rfl⟩ := moved
      obtain ⟨step, backend, handlers⟩ := closing_step_cases advanced
      simp only [backend, handlers]
      exact .closed step
  | abandon =>
      simp only [Service.after?, Processor.abandon, Option.some.injEq] at moved
      subst moved
      by_cases running : service.processor.state = .running
      · simp only [if_pos running]
        exact .dropped running
      · simp only [if_neg running]
        exact .keptOn running
  | outside action =>
      simp only [Service.after?, Option.some.injEq] at moved
      subst moved
      exact .acted action

end Parties

end TaskDispatch
