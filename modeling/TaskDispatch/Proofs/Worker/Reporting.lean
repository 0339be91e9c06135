import TaskDispatch.Proofs.Retry.Appointment
import TaskDispatch.Proofs.Worker.Course

/-!
# One report for every execution

The equipment of a runner is made to keep two books: the calls that its handler answered with, and
the reports that its backend was asked for. The books change nothing of what a runner does. An
execution is any sequence of a runner's steps, at moments that do not go back, with others changing
the shared state in between; they do not write in the books. `execution_reports_once`: with a bounded
policy and a backend that always answers, the runner ends after one call of the handler and one
report, whatever the handler's verdict and the backend's answer; the report is the one that is due.
-/

namespace TaskDispatch

set_option autoImplicit false

structure ReportCall where
  message : TaskMessage
  report : Report
  deriving DecidableEq

namespace ReportCall

/-- The one report that is due for a message when its handler has ended: completion of the message
as it is, or with the text of the failure giving it up if its retries are used up, and otherwise
another retry, counted, and not before the present time. -/
def Due (message : TaskMessage) (now : Moment) : Except TaskError Unit → ReportCall → Prop
  | .ok (), call => call = ⟨message, .complete⟩
  | .error error, call =>
      if message.retry ≤ message.retried then
        call = ⟨{ message with errorMessage := some error.message }, .kill⟩
      else
        ∃ retryAt, now.wall ≤ retryAt ∧
          (message.retried + 1).toNat = message.retried.toNat + 1 ∧
          call =
            ⟨{ message with
                errorMessage := some error.message
                retried := message.retried + 1 }, .retry retryAt⟩

end ReportCall

def Reply.withBook {κ β α : Type} (reply : Reply κ β α) (book : List ReportCall) :
    Reply κ (β × List ReportCall) α where
  answer := reply.answer
  state := (reply.state, book)
  woken := reply.woken
  events := reply.events

namespace Backend

variable {κ β : Type}

/-- The same backend with a book of the reports it is asked for, the last one last. -/
def recording (backend : Backend κ β) : Backend κ (β × List ReportCall) where
  startFetch party wait now state :=
    (backend.startFetch party wait now state.1).map fun begun => ((begun.1, state.2), begun.2)
  advanceFetch cause party now state :=
    (backend.advanceFetch cause party now state.1).map fun moved => ((moved.1, state.2), moved.2)
  wakeTime party state := backend.wakeTime party state.1
  restore state := (backend.restore state.1).withBook state.2
  complete message state :=
    (backend.complete message state.1).withBook (state.2 ++ [⟨message, .complete⟩])
  retry message retryAt state :=
    (backend.retry message retryAt state.1).withBook (state.2 ++ [⟨message, .retry retryAt⟩])
  kill message state :=
    (backend.kill message state.1).withBook (state.2 ++ [⟨message, .kill⟩])

/-- The backend answers every report, be it by a refusal. -/
structure Answering (backend : Backend κ β) : Prop where
  complete : ∀ message state, (backend.complete message state).hasPanicked = false
  retry : ∀ message retryAt state, (backend.retry message retryAt state).hasPanicked = false
  kill : ∀ message state, (backend.kill message state).hasPanicked = false

end Backend

/-- The queue in memory answers every report. -/
theorem MemoryQueue.answers {κ : Type} [DecidableEq κ] :
    (MemoryQueue.backend : Backend κ (MemoryQueue κ)).Answering where
  complete message queue := queue.report_returns message .complete
  retry message retryAt queue := queue.report_returns message (.retry retryAt)
  kill message queue := queue.report_returns message .kill

def Handler.recording {η : Type} (handler : Handler η) : Handler (η × List HandlerCall) :=
  fun task state =>
    let (call, kept) := handler task state.1
    (call, (kept, state.2 ++ [call]))

def Plant.recording {β η : Type} (plant : Plant β η) :
    Plant (β × List ReportCall) (η × List HandlerCall) where
  backend := plant.backend.recording
  handler := Handler.recording plant.handler

def Reconciliation.plain {κ β : Type} (outcome : Reconciliation κ (β × List ReportCall)) :
    Reconciliation κ β where
  state := outcome.state.1
  woken := outcome.woken
  events := outcome.events
  logs := outcome.logs
  panicked := outcome.panicked

def Shared.plain {β η : Type} (shared : Shared (β × List ReportCall) (η × List HandlerCall)) :
    Shared β η where
  backend := shared.backend.1
  handlers := shared.handlers.1
  journal := shared.journal
  woken := shared.woken

namespace RetryPolicy

variable {κ β : Type}

/-- A bounded policy asks for the report that is due, and for nothing else. -/
theorem recorded_reconcile {policy : RetryPolicy} (bounded : policy.Bounded)
    {backend : Backend κ β} (answering : backend.Answering) (message : TaskMessage)
    (error : TaskError) (now : Moment) (draw : Nat) (state : β × List ReportCall) :
    (policy.reconcile backend.recording message error now draw state).panicked = false ∧
      ∃ call, ReportCall.Due message now (.error error) call ∧
        (policy.reconcile backend.recording message error now draw state).state.2 =
          state.2 ++ [call] := by
  unfold reconcile ReportCall.Due
  by_cases exhausted : message.retry ≤ message.retried
  · have givenUp : ({ message with errorMessage := some error.message } :
        TaskMessage).retryExhausted = true := decide_eq_true exhausted
    rw [if_pos givenUp]
    simp only [if_pos exhausted]
    exact ⟨answering.kill _ _, _, rfl, rfl⟩
  · have retried : ¬ ({ message with errorMessage := some error.message } :
        TaskMessage).retryExhausted = true := fun used => exhausted (of_decide_eq_true used)
    have left : 0 < message.retriesLeft :=
      Nat.pos_of_ne_zero fun noneLeft => retried (TaskMessage.exhausted_iff.mpr noneLeft)
    obtain ⟨retryAt, found⟩ := retry_time_exists bounded message.retried now.wall draw
    rw [if_neg retried]
    simp only [if_neg exhausted, found]
    exact ⟨answering.retry _ _ _, _,
      ⟨retryAt, retry_time_le_now found, TaskMessage.retried_succ left, rfl⟩, rfl⟩

/-- The book changes nothing of what the failure handler does. -/
theorem reconcile_with_book (policy : RetryPolicy) (backend : Backend κ β)
    (message : TaskMessage) (error : TaskError) (now : Moment) (draw : Nat)
    (state : β × List ReportCall) :
    policy.reconcile backend message error now draw state.1 =
      (policy.reconcile backend.recording message error now draw state).plain := by
  unfold reconcile
  by_cases exhausted : ({ message with errorMessage := some error.message } :
      TaskMessage).retryExhausted = true
  · rw [if_pos exhausted, if_pos exhausted]
    rfl
  · rw [if_neg exhausted, if_neg exhausted]
    cases policy.retryAt? ({ message with errorMessage := some error.message } :
      TaskMessage).retried now.wall draw with
    | none => rfl
    | some retryAt => rfl

end RetryPolicy

namespace Runner

variable {β η : Type}

def stepsLeft (runner : Runner) : Nat :=
  match runner.stage with
  | .ready => 3
  | .handling _ _ => 2
  | .reporting _ => 1
  | .reported => 0
  | .crashed => 0

theorem steps_left_of_reported (ticket : Nat) (message : TaskMessage) (panicked : Bool) :
    (⟨ticket, message, if panicked then .crashed else .reported⟩ : Runner).stepsLeft = 0 := by
  cases panicked <;> rfl

/-- The books change nothing of what a runner does. -/
theorem advance_with_books (plant : Plant β η) (policy : RetryPolicy) (now : Moment) (draw : Nat)
    (runner : Runner) (shared : Shared (β × List ReportCall) (η × List HandlerCall)) :
    runner.advance plant (policy.reconcile plant.backend) now draw shared.plain =
      (runner.advance plant.recording (policy.reconcile plant.recording.backend) now draw
        shared).map fun moved => (moved.1, moved.2.plain) := by
  unfold advance
  split
  case h_2 finish call _ => split <;> rfl
  case h_4 error _ =>
    have same := policy.reconcile_with_book plant.backend runner.message error now draw
      shared.backend
    simp only [reportFailure, Shared.plain, same]
    rfl
  all_goals rfl

/-- A runner that has not ended can act from some clock reading on, whatever the shared state is,
and each step leaves one step less. -/
theorem advance_of_not_ended {plant : Plant β η} {failure : FailureHandler Party β}
    {runner : Runner} (unended : runner.stage.hasEnded = false) :
    ∃ soonest, ∀ now : Moment, soonest ≤ now.clock → ∀ draw shared, ∃ next changed,
      runner.advance plant failure now draw shared = some (next, changed) ∧
        next.stepsLeft + 1 = runner.stepsLeft := by
  obtain ⟨ticket, message, stage⟩ := runner
  cases stage with
  | ready => exact ⟨0, fun _ _ _ _ => ⟨_, _, rfl, rfl⟩⟩
  | handling finish call =>
    refine ⟨finish, fun now past draw shared =>
      ⟨⟨ticket, message, .reporting call.verdict.result⟩, shared.note now.clock call.after, ?_,
        rfl⟩⟩
    simp only [advance, if_pos past]
  | reporting result =>
    refine ⟨0, fun now _ draw shared => ?_⟩
    cases result with
    | ok => exact ⟨_, _, rfl, congrArg (· + 1) (steps_left_of_reported ticket message _)⟩
    | error error => exact ⟨_, _, rfl, congrArg (· + 1) (steps_left_of_reported ticket message _)⟩
  | reported => cases unended
  | crashed => cases unended

theorem advance_of_ended {plant : Plant β η} {failure : FailureHandler Party β}
    {runner : Runner} (ended : runner.stage.hasEnded = true) (now : Moment) (draw : Nat)
    (shared : Shared β η) : runner.advance plant failure now draw shared = none := by
  obtain ⟨ticket, message, stage⟩ := runner
  cases stage <;> first | rfl | cases ended

/-- One execution of a message with recording equipment. `last` is the moment of the runner's last
step, at first that of the beginning. -/
inductive Execution (plant : Plant β η) (policy : RetryPolicy) (message : TaskMessage)
    (ticket : Nat) :
    Moment → Runner → Shared (β × List ReportCall) (η × List HandlerCall) → Prop where
  | begun {start shared} (noReport : shared.backend.2 = []) (noCall : shared.handlers.2 = []) :
      Execution plant policy message ticket start ⟨ticket, message, .ready⟩ shared
  | disturbed {last runner shared changed}
      (before : Execution plant policy message ticket last runner shared)
      (sameReports : changed.backend.2 = shared.backend.2)
      (sameCalls : changed.handlers.2 = shared.handlers.2) :
      Execution plant policy message ticket last runner changed
  | acted {last runner next shared changed} (now draw)
      (before : Execution plant policy message ticket last runner shared)
      (forward : last.clock ≤ now.clock)
      (step : runner.advance plant.recording (policy.reconcile plant.recording.backend) now draw
        shared = some (next, changed)) :
      Execution plant policy message ticket now next changed

def Booked (message : TaskMessage) (last : Moment) (reports : List ReportCall)
    (calls : List HandlerCall) : RunnerStage → Prop
  | .ready => reports = [] ∧ calls = []
  | .handling _ call => reports = [] ∧ calls = [call]
  | .reporting result => reports = [] ∧ ∃ call, calls = [call] ∧ call.verdict.result = result
  | .reported =>
      ∃ call report, calls = [call] ∧ reports = [report] ∧
        ReportCall.Due message last call.verdict.result report
  | .crashed => False

/-- Each step of a runner does its part of the booking. -/
theorem booked_after_advance {plant : Plant β η} {policy : RetryPolicy}
    (bounded : policy.Bounded) (answering : plant.backend.Answering) {last now : Moment}
    {draw : Nat} {runner next : Runner}
    {shared changed : Shared (β × List ReportCall) (η × List HandlerCall)}
    (booked : Booked runner.message last shared.backend.2 shared.handlers.2 runner.stage)
    (step : runner.advance plant.recording (policy.reconcile plant.recording.backend) now draw
      shared = some (next, changed)) :
    next.message = runner.message ∧
      Booked runner.message now changed.backend.2 changed.handlers.2 next.stage := by
  obtain ⟨ticket, message, stage⟩ := runner
  cases stage with
  | ready =>
    obtain ⟨noReport, noCall⟩ := booked
    cases step
    exact ⟨rfl, noReport, congrArg (· ++ [_]) noCall⟩
  | handling finish call =>
    obtain ⟨noReport, oneCall⟩ := booked
    simp only [advance] at step
    split at step
    case isTrue => cases step; exact ⟨rfl, noReport, call, oneCall, rfl⟩
    case isFalse => cases step
  | reporting result =>
    obtain ⟨noReport, call, oneCall, verdict⟩ := booked
    cases result with
    | ok =>
      have answered : ((plant.recording.backend.complete message
          shared.backend).hasPanicked) = false := answering.complete message shared.backend.1
      simp only [advance, reportSuccess, answered] at step
      cases step
      refine ⟨rfl, call, _, oneCall, congrArg (· ++ [_]) noReport, ?_⟩
      rw [verdict]
      rfl
    | error error =>
      obtain ⟨settled, report, due, entered⟩ := policy.recorded_reconcile bounded answering message
        error now draw shared.backend
      have returned : (policy.reconcile plant.recording.backend message error now draw
          shared.backend).panicked = false := settled
      simp only [advance, reportFailure, returned] at step
      cases step
      refine ⟨rfl, call, report, oneCall, ?_, ?_⟩
      · exact entered.trans (congrArg (· ++ [_]) noReport)
      · rw [verdict]
        exact due
  | reported => cases step
  | crashed => cases step

theorem Execution.booked {plant : Plant β η} {policy : RetryPolicy} (bounded : policy.Bounded)
    (answering : plant.backend.Answering) {message : TaskMessage} {ticket : Nat} {last : Moment}
    {runner : Runner} {shared : Shared (β × List ReportCall) (η × List HandlerCall)}
    (execution : Execution plant policy message ticket last runner shared) :
    runner.message = message ∧
      Booked message last shared.backend.2 shared.handlers.2 runner.stage := by
  induction execution with
  | begun noReport noCall => exact ⟨rfl, noReport, noCall⟩
  | disturbed _ sameReports sameCalls before =>
    rw [sameReports, sameCalls]
    exact before
  | acted now draw _ _ step before =>
    obtain ⟨same, booked⟩ := before
    rw [← same] at booked
    obtain ⟨kept, after⟩ := booked_after_advance bounded answering booked step
    rw [← same]
    exact ⟨kept, after⟩

/-- In every execution the runner keeps its message and does not crash. Until it has ended no report
has been asked for, and from some clock reading on it takes its next step, of which three lead to
the end. When it has ended it acts no more, the handler has been called once, and the backend has
been asked once: for the report that is due after the handler's verdict. -/
theorem execution_reports_once {plant : Plant β η} {policy : RetryPolicy}
    (bounded : policy.Bounded) (answering : plant.backend.Answering) {message : TaskMessage}
    {ticket : Nat} {last : Moment} {runner : Runner}
    {shared : Shared (β × List ReportCall) (η × List HandlerCall)}
    (execution : Execution plant policy message ticket last runner shared) :
    runner.message = message ∧
      runner.stage ≠ .crashed ∧
      (runner.stage.hasEnded = false →
        shared.backend.2 = [] ∧
          ∃ soonest, ∀ now : Moment, soonest ≤ now.clock → ∀ draw others, ∃ next changed,
            runner.advance plant.recording (policy.reconcile plant.recording.backend) now draw
                others = some (next, changed) ∧
              next.stepsLeft + 1 = runner.stepsLeft) ∧
      (runner.stage.hasEnded = true →
        (∀ now draw others,
          runner.advance plant.recording (policy.reconcile plant.recording.backend) now draw
            others = none) ∧
          ∃ call report, shared.handlers.2 = [call] ∧ shared.backend.2 = [report] ∧
            ReportCall.Due message last call.verdict.result report) := by
  obtain ⟨same, booked⟩ := execution.booked bounded answering
  refine ⟨same, ?_, ?_, ?_⟩
  · intro crashed
    rw [crashed] at booked
    exact booked
  · intro unended
    refine ⟨?_, advance_of_not_ended unended⟩
    cases stage : runner.stage with
    | ready => rw [stage] at booked; exact booked.1
    | handling finish call => rw [stage] at booked; exact booked.1
    | reporting result => rw [stage] at booked; exact booked.1
    | reported => rw [stage] at unended; cases unended
    | crashed => rw [stage] at unended; cases unended
  · intro ended
    refine ⟨advance_of_ended ended, ?_⟩
    cases stage : runner.stage with
    | reported => rw [stage] at booked; exact booked
    | crashed => rw [stage] at booked; exact booked.elim
    | ready => rw [stage] at ended; cases ended
    | handling finish call => rw [stage] at ended; cases ended
    | reporting result => rw [stage] at ended; cases ended

/-- A handler panics, no retries are left, and the queue refuses the report: it is the only one. -/
theorem rehearsal_reports_once :
    RetryPolicy.default.Bounded ∧
      (MemoryQueue.backend : Backend Party (MemoryQueue Party)).Answering ∧
      ∃ runner shared,
        Execution { backend := MemoryQueue.backend, handler := Rehearsal.handler }
            RetryPolicy.default Rehearsal.message 0 Rehearsal.now runner shared ∧
          shared.backend.2 =
            [⟨{ Rehearsal.message with errorMessage := some "panic: unknown panic payload" },
              .kill⟩] := by
  have bounded : RetryPolicy.default.Bounded := by decide
  have ready : Execution { backend := MemoryQueue.backend, handler := Rehearsal.handler }
      RetryPolicy.default Rehearsal.message 0 Rehearsal.now ⟨0, Rehearsal.message, .ready⟩
      { backend := (.empty, []), handlers := ((), []), journal := .empty, woken := [] } :=
    .begun rfl rfl
  have handling := ready.acted Rehearsal.now 0 (Nat.le_refl _) rfl
  have reporting := handling.acted Rehearsal.now 0 (Nat.le_refl _) rfl
  have reported := reporting.acted Rehearsal.now 0 (Nat.le_refl _) rfl
  refine ⟨bounded, MemoryQueue.answers, _, _, reported, ?_⟩
  obtain ⟨-, -, -, atEnd⟩ := execution_reports_once bounded MemoryQueue.answers reported
  obtain ⟨-, call, report, oneCall, oneReport, due⟩ := atEnd rfl
  cases oneCall
  rw [oneReport]
  exact congrArg (fun made => [made]) due

end Runner

end TaskDispatch
