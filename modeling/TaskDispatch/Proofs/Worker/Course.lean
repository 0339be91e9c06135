import TaskDispatch.Queue.Memory
import TaskDispatch.Worker.Processor

/-!
# The course of a processor

A processor in service acts in atomic steps: it is started, its dispatch loop and its runners
advance, it is terminated or dropped. Between any two of these steps others may act on the backend.
A course is any sequence of such steps, in any order and with any clock readings, together with the
deeds that were done on the way. A step that has to wait cannot be taken. A report is one step: what
a failure handler does to the backend before the last thing it does counts as an action from
outside.
-/

namespace TaskDispatch

set_option autoImplicit false

/-- The equipment of a processor, and what others may do to its backend: the new state, and who is
woken. -/
structure Setting (β η α : Type) where
  plant : Plant β η
  outside : α → β → β × List Party

/-- A processor whose backend is a queue in memory, to which others add messages. -/
def MemoryQueue.setting {η : Type} (handler : Handler η) :
    Setting (MemoryQueue Party) η TaskMessage where
  plant := { backend := MemoryQueue.backend, handler := handler }
  outside := MemoryQueue.enqueue

structure Service (β η : Type) where
  processor : Processor β
  shared : Shared β η

/-- Who acts next. Clock readings, wake causes and random draws are whatever they may be. -/
inductive Move (α : Type) where
  | start (now : Moment)
  | loop (cause : WakeCause) (now : Moment)
  | runner (ticket draw : Nat) (now : Moment)
  | terminate
  | close
  | abandon
  | outside (action : α)

/-- A message handed to a runner, under the ticket of that runner. -/
structure Assignment where
  ticket : Nat
  message : TaskMessage
  deriving DecidableEq

def Runner.assignment (runner : Runner) : Assignment where
  ticket := runner.ticket
  message := runner.message

/-- What a step has brought about: the loop got a message, or handed it to a new runner; a runner
ended its report, or gave its slot back and is gone; or others acted. -/
inductive Deed (α : Type) where
  | fetched (message : TaskMessage)
  | assigned (assignment : Assignment)
  | reported (assignment : Assignment)
  | released (assignment : Assignment)
  | outside (action : α)
  deriving DecidableEq

namespace Deed

variable {α : Type}

def fetched? : Deed α → Option TaskMessage
  | .fetched message => some message
  | _ => none

def assigned? : Deed α → Option Assignment
  | .assigned assignment => some assignment
  | _ => none

def reported? : Deed α → Option Assignment
  | .reported assignment => some assignment
  | _ => none

def released? : Deed α → Option Assignment
  | .released assignment => some assignment
  | _ => none

def action? : Deed α → Option α
  | .outside action => some action
  | _ => none

end Deed

namespace Crew

variable {α : Type}

/-- The deed of a step of the dispatch loop, seen from what the loop holds before and after. -/
def loopDeed? (before after : Crew) : Option (Deed α) :=
  match before.loop, after.loop with
  | .fetching, .admitting message _ => some (.fetched message)
  | .admitting message _, .checking =>
      some (.assigned { ticket := before.nextTicket, message := message })
  | _, _ => none

def runnerDeed? (ticket : Nat) (before after : Crew) : Option (Deed α) :=
  match before.runnerOf? ticket, after.runnerOf? ticket with
  | some runner, none => some (.released runner.assignment)
  | some runner, some later =>
      if runner.stage.hasEnded = false ∧ later.stage.hasEnded = true then
        some (.reported runner.assignment)
      else none
  | none, _ => none

end Crew

namespace Service

variable {β η α : Type}

/-- The service after a move. There is none if whoever is to act has to wait; a call that is refused
changes nothing. -/
def after? (setting : Setting β η α) (index : Nat) (service : Service β η) :
    Move α → Option (Service β η)
  | .start now =>
      match service.processor.start setting.plant index now service.shared with
      | .refused _ => some service
      | .started processor shared => some { processor := processor, shared := shared }
      | .panicked shared => some { service with shared := shared }
  | .loop cause now =>
      (service.processor.crew.advanceLoop setting.plant index
        service.processor.config.dequeueTimeout cause now service.shared).map
        fun (crew, shared) =>
          { processor := { service.processor with crew := crew }, shared := shared }
  | .runner ticket draw now =>
      (service.processor.crew.advanceRunner setting.plant service.processor.failure draw now
        ticket service.shared).map
        fun (crew, shared) =>
          { processor := { service.processor with crew := crew }, shared := shared }
  | .terminate =>
      match service.processor.terminate service.shared with
      | .error _ => some service
      | .ok (processor, shared) => some { processor := processor, shared := shared }
  | .close =>
      (service.processor.advanceClosing index service.shared).map
        fun (processor, shared) => { processor := processor, shared := shared }
  | .abandon =>
      let (processor, shared) := service.processor.abandon service.shared
      some { processor := processor, shared := shared }
  | .outside action =>
      let (backend, woken) := setting.outside action service.shared.backend
      some
        { service with
          shared := ({ service.shared with backend := backend } : Shared β η).wake woken }

def deed? (service : Service β η) (move : Move α) (later : Service β η) : Option (Deed α) :=
  match move with
  | .loop _ _ => service.processor.crew.loopDeed? later.processor.crew
  | .runner ticket _ _ => service.processor.crew.runnerDeed? ticket later.processor.crew
  | .outside action => some (.outside action)
  | _ => none

/-- Whether a move would have the processor call its backend, or take a call further: the
restoration of a start, a fetch that is begun or under way, and the report of a runner. -/
def callsBackend (service : Service β η) : Move α → Bool
  | .start _ => service.processor.state.canBecome .running
  | .loop _ _ =>
      match service.processor.crew.loop with
      | .checking => !service.processor.crew.stop
      | .fetching => true
      | _ => false
  | .runner ticket _ _ =>
      match (service.processor.crew.runnerOf? ticket).map Runner.stage with
      | some (.reporting _) => true
      | _ => false
  | _ => false

def run (setting : Setting β η α) (index : Nat) :
    List (Move α) → Service β η → Option (List (Deed α) × Service β η)
  | [], service => some ([], service)
  | move :: moves, service => do
      let later ← service.after? setting index move
      let (deeds, last) ← run setting index moves later
      some ((service.deed? move later).toList ++ deeds, last)

end Service

section Courses

variable {β η α : Type}

inductive Course (setting : Setting β η α) (index : Nat) (origin : Service β η) :
    List (Deed α) → Service β η → Prop where
  | begin : Course setting index origin [] origin
  | next {deeds : List (Deed α)} {service later : Service β η}
      (course : Course setting index origin deeds service) (move : Move α)
      (moved : service.after? setting index move = some later) :
      Course setting index origin (deeds ++ (service.deed? move later).toList) later

variable {setting : Setting β η α} {index : Nat}

theorem course_trans {origin middle last : Service β η} {early late : List (Deed α)}
    (first : Course setting index origin early middle)
    (second : Course setting index middle late last) :
    Course setting index origin (early ++ late) last := by
  induction second with
  | begin => simpa using first
  | next course move moved ih =>
      rw [← List.append_assoc]
      exact .next ih move moved

/-- A run that can be computed is a course. -/
theorem course_of_run {moves : List (Move α)} {origin last : Service β η}
    {deeds : List (Deed α)} (ran : origin.run setting index moves = some (deeds, last)) :
    Course setting index origin deeds last := by
  induction moves generalizing origin deeds with
  | nil =>
      simp only [Service.run, Option.some.injEq, Prod.mk.injEq] at ran
      obtain ⟨rfl, rfl⟩ := ran
      exact .begin
  | cons move moves ih =>
      simp only [Service.run, Option.bind_eq_bind, Option.bind_eq_some_iff, Prod.exists,
        Option.some.injEq, Prod.mk.injEq] at ran
      obtain ⟨later, moved, rest, _, ranOn, rfl, rfl⟩ := ran
      have single : Course setting index origin (origin.deed? move later).toList later := by
        simpa using Course.next Course.begin move moved
      exact course_trans single (ih ranOn)

end Courses

/-! ## A rehearsal

One message that may not be retried comes to a processor with one slot. Its handler panics, it is
given up, and the processor is terminated while the runner is at work. -/

namespace Rehearsal

def message : TaskMessage := { (default : TaskMessage) with retry := 0 }

def handler : Handler Unit := fun _ state => (.immediate (.panicked .other), state)

def config : ProcessorConfig where
  concurrency := 1
  positive := by decide
  dequeueTimeout := .ofSeconds 5

def failure : FailureHandler Party (MemoryQueue Party) :=
  RetryPolicy.default.reconcile MemoryQueue.backend

def processor : Processor (MemoryQueue Party) where
  config := config
  failure := failure
  state := .created
  crew :=
    { slots := { capacity := 1, free := 1, waiting := [], granted := [] }
      stop := false
      loop := .idle
      runners := []
      nextTicket := 0 }
  closing := .idle

def shared : Shared (MemoryQueue Party) Unit where
  backend := .empty
  handlers := ()
  journal := .empty
  woken := []

def now : Moment := ⟨0, .epoch⟩

def assignment : Assignment := ⟨0, message⟩

/-- Until the handler is at work. -/
def opening : List (Move TaskMessage) :=
  [.outside message, .start now, .loop .told now, .loop .told now, .loop .told now,
    .runner 0 0 now]

def second : TaskMessage := { message with id := .ofNat 1 }

/-- A second message comes, and the loop has to wait with it. -/
def crowding : List (Move TaskMessage) :=
  [.outside second, .loop .told now, .loop .told now, .loop .told now]

/-- Until the only slot has been taken. -/
def ending : List (Move TaskMessage) :=
  [.terminate, .runner 0 0 now, .runner 0 0 now, .runner 0 0 now, .loop .told now, .close, .close]

theorem created : Processor.new? config failure = some processor := rfl

end Rehearsal

end TaskDispatch
