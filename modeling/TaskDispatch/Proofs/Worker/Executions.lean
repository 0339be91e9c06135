import TaskDispatch.Proofs.Worker.Passage

/-!
# One execution for each message

Whatever the backend answers, the messages that fetches have brought are handed over one after the
other, each under a ticket of its own; only the last one may still be with the loop. Under a ticket
the acts follow a script: the message is handed over, its handler is called, and one report is made
of the result. The calls are those that the acts name, with the message as it was fetched.
-/

namespace TaskDispatch

set_option autoImplicit false

def Assignment.script (assignment : Assignment) (call : HandlerCall) : List Act :=
  [.admitted assignment, .called assignment assignment.message.task call,
    assignment.report call.verdict.result]

def Act.isUnder (ticket : Nat) (act : Act) : Bool :=
  act.assignment?.any fun assignment => assignment.ticket == ticket

/-- How far the script of an assignment has been followed while its runner is at a stage, or when
that runner is gone. -/
inductive Assignment.Progress (assignment : Assignment) :
    Option RunnerStage → List Act → Prop where
  | ready : Progress assignment (some .ready) [.admitted assignment]
  | handling (finish : Nat) (call : HandlerCall) :
      Progress assignment (some (.handling finish call))
        [.admitted assignment, .called assignment assignment.message.task call]
  | reporting {result : Except TaskError Unit} (call : HandlerCall)
      (verdict : call.verdict.result = result) :
      Progress assignment (some (.reporting result))
        [.admitted assignment, .called assignment assignment.message.task call]
  | ended {stage : RunnerStage} (past : stage.hasEnded = true) (call : HandlerCall) :
      Progress assignment (some stage) (assignment.script call)
  | gone (call : HandlerCall) : Progress assignment none (assignment.script call)

namespace Assignment

variable {assignment : Assignment} {stage : Option RunnerStage} {acts : List Act}

theorem Progress.so_far (progress : assignment.Progress stage acts) :
    ∃ call, acts <+: assignment.script call := by
  cases progress with
  | ready => exact ⟨.immediate .succeeded, _, rfl⟩
  | handling finish call => exact ⟨call, _, rfl⟩
  | reporting call => exact ⟨call, _, rfl⟩
  | ended past call => exact ⟨call, List.prefix_rfl⟩
  | gone call => exact ⟨call, List.prefix_rfl⟩

theorem Progress.reported {result : Except TaskError Unit} {stage : RunnerStage}
    (progress : assignment.Progress (some (.reporting result)) acts)
    (past : stage.hasEnded = true) :
    assignment.Progress (some stage) (acts ++ [assignment.report result]) := by
  cases progress with
  | ended past => cases past
  | reporting call verdict =>
      rw [← verdict]
      exact .ended past call

theorem Progress.whole (progress : assignment.Progress stage acts)
    (past : ∀ atStage, stage = some atStage → atStage.hasEnded = true) :
    ∃ call, acts = assignment.script call := by
  cases progress with
  | ready => cases past _ rfl
  | handling finish call => cases past _ rfl
  | reporting call => cases past _ rfl
  | ended _ call => exact ⟨call, rfl⟩
  | gone call => exact ⟨call, rfl⟩

end Assignment

namespace Crew

/-- The acts so far account for what the loop holds and for how far every runner is. -/
structure Transcribed (acts : List Act) (crew : Crew) : Prop where
  received : acts.filterMap Act.received? =
    (acts.filterMap Act.admitted?).map Assignment.message ++ crew.loop.held?.toList
  tickets : (acts.filterMap Act.admitted?).map Assignment.ticket = List.range crew.nextTicket
  known : ∀ act ∈ acts, ∀ assignment, act.assignment? = some assignment →
    assignment ∈ acts.filterMap Act.admitted?
  present : ∀ runner ∈ crew.runners, runner.assignment ∈ acts.filterMap Act.admitted?
  followed : ∀ assignment ∈ acts.filterMap Act.admitted?,
    assignment.Progress ((crew.runnerOf? assignment.ticket).map Runner.stage)
      (acts.filter (Act.isUnder assignment.ticket))

variable {crew next : Crew} {acts : List Act} {act : Option Act} {ticket : Nat}
  {runner : Runner}

theorem Transcribed.same_assignment (transcribed : crew.Transcribed acts)
    {one other : Assignment} (first : one ∈ acts.filterMap Act.admitted?)
    (second : other ∈ acts.filterMap Act.admitted?) (same : one.ticket = other.ticket) :
    one = other := by
  have distinct : ((acts.filterMap Act.admitted?).map Assignment.ticket).Nodup := by
    rw [transcribed.tickets]
    exact List.nodup_range
  exact List.inj_on_of_nodup_map distinct first second same

theorem Transcribed.ticket_lt (transcribed : crew.Transcribed acts) {assignment : Assignment}
    (member : assignment ∈ acts.filterMap Act.admitted?) :
    assignment.ticket < crew.nextTicket := by
  rw [← List.mem_range, ← transcribed.tickets]
  exact List.mem_map_of_mem member

/-- An act under no ticket, if the loop has then what a fetch has brought. -/
theorem transcribed_after_other (transcribed : crew.Transcribed acts)
    (alien : act.bind Act.assignment? = none) (runners : next.runners = crew.runners)
    (tickets : next.nextTicket = crew.nextTicket)
    (received : crew.loop.held?.toList ++ (act.bind Act.received?).toList =
      next.loop.held?.toList) :
    next.Transcribed (acts ++ act.toList) := by
  have sameAdmitted :
      (acts ++ act.toList).filterMap Act.admitted? = acts.filterMap Act.admitted? := by
    rcases act with _ | act
    · simp
    · cases act <;> simp [Act.assignment?, Act.admitted?] at alien ⊢
  have sameUnder (ticket : Nat) : (acts ++ act.toList).filter (Act.isUnder ticket) =
      acts.filter (Act.isUnder ticket) := by
    rcases act with _ | act
    · simp
    · have alien : act.assignment? = none := alien
      simp [Act.isUnder, alien]
  constructor
  case received =>
    rw [sameAdmitted, ← received, ← List.append_assoc, ← transcribed.received,
      List.filterMap_append]
    cases act <;> rfl
  case tickets =>
    rw [sameAdmitted, tickets]
    exact transcribed.tickets
  case known =>
    intro done member assignment own
    rw [sameAdmitted]
    rcases List.mem_append.mp member with earlier | last
    · exact transcribed.known done earlier assignment own
    · rw [Option.mem_toList.mp last, Option.bind_some, own] at alien
      cases alien
  case present =>
    rw [runners, sameAdmitted]
    exact transcribed.present
  case followed =>
    intro assignment member
    rw [sameAdmitted] at member
    rw [sameUnder, runnerOf?, runners]
    exact transcribed.followed assignment member

theorem transcribed_after_assign (transcribed : crew.Transcribed acts) (ticketed : crew.Ticketed)
    {message : TaskMessage} (held : crew.loop.held? = some message) :
    (crew.assign message).Transcribed (acts ++ [.admitted (crew.nextAssignment message)]) := by
  have grown : (acts ++ [Act.admitted (crew.nextAssignment message)]).filterMap Act.admitted? =
      acts.filterMap Act.admitted? ++ [crew.nextAssignment message] := filter_map_concat _ _ _
  constructor
  case received =>
    rw [grown, filter_map_concat, transcribed.received, held]
    simp [Act.received?, nextAssignment, assign, LoopStage.held?]
  case tickets =>
    rw [grown, List.map_append, transcribed.tickets]
    exact List.range_succ.symm
  case known =>
    intro done member assignment own
    rw [grown, List.mem_append]
    rcases List.mem_append.mp member with earlier | last
    · exact .inl (transcribed.known done earlier assignment own)
    · rw [List.mem_singleton.mp last] at own
      cases own
      exact .inr (List.mem_singleton_self _)
  case present =>
    intro runner member
    rw [grown, List.mem_append]
    rcases List.mem_append.mp member with earlier | last
    · exact .inl (transcribed.present runner earlier)
    · rw [List.mem_singleton.mp last]
      exact .inr (List.mem_singleton_self _)
  case followed =>
    intro assignment member
    rw [grown, List.mem_append] at member
    rw [found_after_assign, List.filter_append]
    rcases member with earlier | last
    · have older : crew.nextTicket ≠ assignment.ticket :=
        (Nat.ne_of_lt (transcribed.ticket_lt earlier)).symm
      have followed := transcribed.followed assignment earlier
      simpa [Act.isUnder, Act.assignment?, nextAssignment, older] using followed
    · obtain rfl := List.mem_singleton.mp last
      -- No act was done before under the new ticket.
      have untouched : acts.filter (Act.isUnder crew.nextTicket) = [] := by
        rw [List.filter_eq_nil_iff]
        intro done member under
        obtain ⟨other, own, same⟩ := (Option.any_eq_true _ _).mp under
        have older := transcribed.ticket_lt (transcribed.known done member other own)
        rw [beq_iff_eq.mp same] at older
        exact Nat.lt_irrefl _ older
      have started : (crew.nextAssignment message).Progress (some .ready)
          [.admitted (crew.nextAssignment message)] := .ready
      simpa [nextAssignment, untouched, new_ticket_unfound ticketed, Act.isUnder,
        Act.assignment?] using started

/-- The slots are not part of what the acts account for. -/
theorem transcribed_after_admission (transcribed : crew.Transcribed acts)
    (ticketed : crew.Ticketed) (slots : Slots Party) {message : TaskMessage}
    (held : crew.loop.held? = some message) :
    (({ crew with slots := slots } : Crew).assign message).Transcribed
      (acts ++ [.admitted (crew.nextAssignment message)]) := by
  have transcribed : ({ crew with slots := slots } : Crew).Transcribed acts :=
    ⟨transcribed.received, transcribed.tickets, transcribed.known, transcribed.present,
      transcribed.followed⟩
  exact transcribed_after_assign transcribed ⟨ticketed.distinct, ticketed.given⟩ held

/-- A runner goes on in its script; the others stay where they are. -/
theorem transcribed_after_runner (transcribed : crew.Transcribed acts)
    (found : crew.runnerOf? ticket = some runner) (loop : next.loop = crew.loop)
    (tickets : next.nextTicket = crew.nextTicket)
    (assignments : ∀ other ∈ next.runners, ∃ before ∈ crew.runners,
      other.assignment = before.assignment)
    (elsewhere : ∀ other, other ≠ ticket → next.runnerOf? other = crew.runnerOf? other)
    (own : ∀ done, act = some done →
      done.assignment? = some runner.assignment ∧ done.admitted? = none)
    (progress : ∀ before,
      runner.assignment.Progress (some runner.stage) before →
        runner.assignment.Progress ((next.runnerOf? ticket).map Runner.stage)
          (before ++ act.toList)) :
    next.Transcribed (acts ++ act.toList) := by
  have ticketOwn := ticket_of_found found
  have admitted := transcribed.present runner (mem_of_found found)
  have sameAdmitted :
      (acts ++ act.toList).filterMap Act.admitted? = acts.filterMap Act.admitted? := by
    cases act with
    | none => simp
    | some done => simp [(own done rfl).2]
  have sameReceived :
      (acts ++ act.toList).filterMap Act.received? = acts.filterMap Act.received? := by
    rcases act with _ | done
    · simp
    · have assigned := (own done rfl).1
      cases done <;> simp [Act.assignment?, Act.received?] at assigned ⊢
  constructor
  case received =>
    rw [sameAdmitted, sameReceived, loop]
    exact transcribed.received
  case tickets =>
    rw [sameAdmitted, tickets]
    exact transcribed.tickets
  case known =>
    intro done member assignment assigned
    rw [sameAdmitted]
    rcases List.mem_append.mp member with earlier | last
    · exact transcribed.known done earlier assignment assigned
    · rw [(own done (Option.mem_toList.mp last)).1] at assigned
      cases assigned
      exact admitted
  case present =>
    intro other member
    obtain ⟨before, earlier, same⟩ := assignments other member
    rw [sameAdmitted, same]
    exact transcribed.present before earlier
  case followed =>
    intro assignment member
    rw [sameAdmitted] at member
    have followed := transcribed.followed assignment member
    rw [List.filter_append]
    by_cases same : assignment.ticket = ticket
    · obtain rfl : assignment = runner.assignment :=
        transcribed.same_assignment member admitted (same.trans ticketOwn.symm)
      have under : act.toList.filter (Act.isUnder runner.assignment.ticket) = act.toList := by
        rw [List.filter_eq_self]
        intro done last
        simp [Act.isUnder, (own done (Option.mem_toList.mp last)).1]
      rw [same] at followed ⊢
      rw [found] at followed
      rw [same] at under
      rw [under]
      exact progress _ followed
    · have unrelated : act.toList.filter (Act.isUnder assignment.ticket) = [] := by
        rw [List.filter_eq_nil_iff]
        intro done last
        have differs : ¬ runner.assignment.ticket = assignment.ticket := fun equal =>
          same (equal.symm.trans ticketOwn)
        simp [Act.isUnder, (own done (Option.mem_toList.mp last)).1, differs]
      rw [elsewhere _ same, unrelated, List.append_nil]
      exact followed

theorem transcribed_after_set_runner (transcribed : crew.Transcribed acts)
    (found : crew.runnerOf? ticket = some runner) (stage : RunnerStage)
    (own : ∀ done, act = some done →
      done.assignment? = some runner.assignment ∧ done.admitted? = none)
    (progress : ∀ before,
      runner.assignment.Progress (some runner.stage) before →
        runner.assignment.Progress (some stage) (before ++ act.toList)) :
    (crew.setRunner { runner with stage := stage }).Transcribed (acts ++ act.toList) := by
  have ticketOwn := ticket_of_found found
  refine transcribed_after_runner transcribed found rfl rfl ?_ ?_ own ?_
  · intro other member
    obtain ⟨before, earlier, rfl⟩ := List.mem_map.mp member
    by_cases replaced : before.ticket = runner.ticket
    · rw [if_pos replaced]
      exact ⟨runner, mem_of_found found, rfl⟩
    · rw [if_neg replaced]
      exact ⟨before, earlier, rfl⟩
  · intro other differs
    apply found_elsewhere_after_set_runner
    simpa only [ticketOwn] using differs
  · intro before soFar
    rw [found_after_set_runner found { runner with stage := stage } rfl]
    exact progress before soFar

end Crew

section Moves

variable {β η α : Type} {crew next : Crew} {acts : List Act} {act : Option Act} {index : Nat}

theorem loop_move_transcribed {backend : Backend Party β} {timeout : Duration}
    {cause : WakeCause} {now : Moment} {state later : β}
    (move : LoopMove backend index timeout cause now crew state act next later)
    (transcribed : crew.Transcribed acts) (ticketed : crew.Ticketed) :
    next.Transcribed (acts ++ act.toList) := by
  cases move with
  | stopped checking | overdue checking | begun checking =>
      exact Crew.transcribed_after_other transcribed rfl rfl rfl (by rw [checking]; rfl)
  | waiting => exact Crew.transcribed_after_other transcribed rfl rfl rfl (by simp)
  | @answered _ _ answer fetching =>
      refine Crew.transcribed_after_other transcribed rfl rfl rfl ?_
      rw [fetching]
      rcases answer with (error | _) | (_ | message) <;> rfl
  | admitted holding | resumed holding =>
      exact Crew.transcribed_after_admission transcribed ticketed _ (by rw [holding]; rfl)
  | queued holding =>
      exact Crew.transcribed_after_other transcribed rfl rfl rfl
        (by simp [holding, LoopStage.held?])

theorem runner_move_transcribed {plant : Plant β η} {failure : FailureHandler Party β}
    {ticket draw : Nat} {now : Moment} {state later : β} {handlers changed : η}
    (move : RunnerMove plant failure ticket draw now crew state handlers act next later changed)
    (transcribed : crew.Transcribed acts) : next.Transcribed (acts ++ act.toList) := by
  cases move with
  | @called _ runner call found ready =>
      refine Crew.transcribed_after_set_runner transcribed found _ ?_ ?_
      · rintro _ ⟨⟩
        exact ⟨rfl, rfl⟩
      · intro before soFar
        rw [ready] at soFar
        cases soFar with
        | ready => exact .handling _ call
        | ended past => cases past
  | @handled runner finish call found handling =>
      refine Crew.transcribed_after_set_runner transcribed found _ (by simp) ?_
      intro before soFar
      rw [handling] at soFar
      rw [Option.toList_none, List.append_nil]
      cases soFar with
      | handling => exact .reporting call rfl
      | ended past => cases past
  | @completed runner found succeeded =>
      refine Crew.transcribed_after_set_runner transcribed found _ ?_ ?_
      · rintro _ ⟨⟩
        exact ⟨rfl, rfl⟩
      · intro before soFar
        rw [succeeded] at soFar
        exact soFar.reported (by split <;> rfl)
  | @failed runner error found failed =>
      refine Crew.transcribed_after_set_runner transcribed found _ ?_ ?_
      · rintro _ ⟨⟩
        exact ⟨rfl, rfl⟩
      · intro before soFar
        rw [failed] at soFar
        exact soFar.reported (by split <;> rfl)
  | @retired runner found ended =>
      refine Crew.transcribed_after_runner transcribed found rfl rfl ?_ ?_ (by simp) ?_
      · intro other member
        exact ⟨other, List.mem_of_mem_filter member, rfl⟩
      · intro other differs
        exact Crew.found_elsewhere_after_retirement crew crew.slots.release.1 differs
      · intro before soFar
        have nobody : ({ crew with
            slots := crew.slots.release.1
            runners := crew.others ticket } : Crew).runnerOf? ticket = none :=
          Crew.nobody_found_among_others crew ticket
        obtain ⟨call, rfl⟩ := soFar.whole fun _ same => Option.some.inj same ▸ ended
        rw [Option.toList_none, List.append_nil]
        exact nobody ▸ .gone call

theorem service_move_transcribed {setting : Setting β η α} {processor later : Processor β}
    {state last : β} {handlers changed : η} {move : Move α}
    (moved : ServiceMove setting index processor state handlers move act later last changed)
    (transcribed : processor.crew.Transcribed acts) (sound : processor.Sound index) :
    later.crew.Transcribed (acts ++ act.toList) := by
  cases moved with
  | dispatched step => exact loop_move_transcribed step transcribed sound.budgeted.ticketed
  | executed step => exact runner_move_transcribed step transcribed
  | started created =>
      refine Crew.transcribed_after_other transcribed rfl rfl rfl ?_
      rw [(sound.inPhase.unstarted created).1]
      rfl
  | closed step =>
      cases step with
      | joined | taken | finished | given | queued =>
          exact Crew.transcribed_after_other transcribed rfl rfl rfl (by simp)
  | startRefused | startPanicked | terminationRefused | terminating | keptOn | dropped | acted =>
      exact Crew.transcribed_after_other transcribed rfl rfl rfl (by simp [Act.received?])

end Moves

section Executions

variable {β η α : Type} {setting : Setting β η α} {index : Nat} {config : ProcessorConfig}
  {failure : FailureHandler Party β} {processor : Processor β} {shared : Shared β η}
  {steps : List (Transition β η α)} {service : Service β η}

theorem passage_transcribed (created : Processor.new? config failure = some processor)
    (passage : Passage setting index { processor := processor, shared := shared } steps service) :
    service.processor.crew.Transcribed (actsOf setting index steps) := by
  induction passage with
  | begin =>
      simp only [Processor.new?, Crew.new?, Option.map_map, Option.map_eq_some_iff] at created
      obtain ⟨slots, _, rfl⟩ := created
      constructor <;> simp [actsOf, LoopStage.held?]
  | next passage move moved ih =>
      rw [acts_of_concat]
      exact service_move_transcribed (service_move_cases moved) ih
        (passage_sound created passage).1

/-- The fetched messages and their executions, in the acts of some steps that led to a service. -/
structure ExecutesOnce (setting : Setting β η α) (index : Nat) (steps : List (Transition β η α))
    (service : Service β η) : Prop where
  handed_over : (actsOf setting index steps).filterMap Act.received? =
    ((actsOf setting index steps).filterMap Act.admitted?).map Assignment.message ++
      service.processor.crew.loop.held?.toList
  tickets : ((actsOf setting index steps).filterMap Act.admitted?).map Assignment.ticket =
    List.range service.processor.crew.nextTicket
  runners : ∀ runner ∈ service.processor.crew.runners,
    runner.assignment ∈ (actsOf setting index steps).filterMap Act.admitted?
  nobody_else : ∀ act ∈ actsOf setting index steps, ∀ assignment,
    act.assignment? = some assignment →
      assignment ∈ (actsOf setting index steps).filterMap Act.admitted?
  scripted : ∀ assignment ∈ (actsOf setting index steps).filterMap Act.admitted?, ∃ call,
    (actsOf setting index steps).filter (Act.isUnder assignment.ticket) <+:
      assignment.script call
  reported : ∀ assignment ∈ (actsOf setting index steps).filterMap Act.admitted?,
    (∀ runner, service.processor.crew.runnerOf? assignment.ticket = some runner →
      runner.stage.hasEnded = true) →
        ∃ call, (actsOf setting index steps).filter (Act.isUnder assignment.ticket) =
          assignment.script call
  goes_on : ∀ runner ∈ service.processor.crew.runners, ∀ (draw : Nat) (now : Moment),
    (∀ finish, runner.wakeTime = some finish → finish ≤ now.clock) →
      ∃ later, service.after? setting index (.runner runner.ticket draw now) = some later
  fruitless : ∀ step ∈ steps, ∀ answer, step.act? setting index = some (.fetchEnded answer) →
    (∀ message, answer ≠ .ok (some message)) →
      (LoopStage.afterAnswer answer).held? = none ∧
        step.after.processor =
          { step.before.processor with
            crew := { step.before.processor.crew with loop := .afterAnswer answer } }
  performed : ∀ step ∈ steps,
    ServiceMove setting index step.before.processor step.before.shared.backend
      step.before.shared.handlers step.move (step.act? setting index) step.after.processor
      step.after.shared.backend step.after.shared.handlers

theorem runner_goes_on (ticketed : service.processor.crew.Ticketed) {runner : Runner}
    (member : runner ∈ service.processor.crew.runners) (draw : Nat) {now : Moment}
    (past : ∀ finish, runner.wakeTime = some finish → finish ≤ now.clock) :
    ∃ later, service.after? setting index (.runner runner.ticket draw now) = some later := by
  simp only [Service.after?, Crew.advanceRunner, Crew.found_of_mem ticketed member,
    Option.bind_eq_bind, Option.bind_some, Option.map_eq_some_iff, Prod.exists]
  by_cases ended : runner.stage.hasEnded = true
  · rw [if_pos ended]
    exact ⟨_, _, _, rfl, rfl⟩
  · rw [if_neg ended]
    unfold Runner.advance
    cases stage : runner.stage with
    | ready => exact ⟨_, _, _, rfl, rfl⟩
    | handling finish call =>
        have time : finish ≤ now.clock := past finish (by rw [Runner.wakeTime, stage])
        simp only [if_pos time]
        exact ⟨_, _, _, rfl, rfl⟩
    | reporting result => cases result <;> exact ⟨_, _, _, rfl, rfl⟩
    | reported | crashed => exact absurd (by rw [stage]; rfl) ended

theorem crew_after_fruitless {later : Processor β} {state next : β} {handlers changed : η}
    {move : Move α} {answer : Except CallFailure (Option TaskMessage)}
    (moved : ServiceMove setting index processor state handlers move (some (.fetchEnded answer))
      later next changed)
    (nothing : ∀ message, answer ≠ .ok (some message)) :
    (LoopStage.afterAnswer answer).held? = none ∧
      later = { processor with crew := { processor.crew with loop := .afterAnswer answer } } := by
  cases moved with
  | executed step => cases step
  | dispatched step =>
      cases step with
      | answered =>
          refine ⟨?_, rfl⟩
          rcases answer with (error | _) | (_ | message)
          · rfl
          · rfl
          · rfl
          · exact absurd rfl (nothing message)

/-- Whatever a backend answers to the fetches, and whatever handlers, failure handlers and others
do: every fetched message is executed and reported once. -/
theorem one_execution_per_message (setting : Setting β η α) (index : Nat)
    (created : Processor.new? config failure = some processor)
    (passage : Passage setting index { processor := processor, shared := shared } steps service) :
    ExecutesOnce setting index steps service := by
  have transcribed := passage_transcribed created passage
  constructor
  case handed_over => exact transcribed.received
  case tickets => exact transcribed.tickets
  case runners => exact transcribed.present
  case nobody_else => exact transcribed.known
  case scripted =>
    intro assignment member
    exact (transcribed.followed assignment member).so_far
  case reported =>
    intro assignment member ended
    apply (transcribed.followed assignment member).whole
    intro stage atStage
    obtain ⟨runner, found, rfl⟩ := Option.map_eq_some_iff.mp atStage
    exact ended runner found
  case goes_on =>
    intro runner member draw now past
    exact runner_goes_on (passage_sound created passage).1.budgeted.ticketed member draw past
  case fruitless =>
    intro step member answer ended nothing
    have moved : step.Performed setting index := passage_performed passage member
    rw [Transition.Performed, ended] at moved
    exact crew_after_fruitless moved nothing
  case performed =>
    intro step member
    exact passage_performed passage member

end Executions

open Rehearsal in
theorem rehearsal_executes_once :
    ∃ last,
      Passage (MemoryQueue.setting handler) 0 { processor := processor, shared := shared }
          (Service.transitions (MemoryQueue.setting handler) 0 (opening ++ ending)
            { processor := processor, shared := shared }) last ∧
        ExecutesOnce (MemoryQueue.setting handler) 0
          (Service.transitions (MemoryQueue.setting handler) 0 (opening ++ ending)
            { processor := processor, shared := shared }) last := by
  have ran : ∃ deeds last,
      Service.run (MemoryQueue.setting handler) 0 (opening ++ ending)
        { processor := processor, shared := shared } = some (deeds, last) := ⟨_, _, rfl⟩
  obtain ⟨deeds, last, ran⟩ := ran
  have passage := passage_of_run ran
  exact
    ⟨last, passage, one_execution_per_message (MemoryQueue.setting handler) 0 created passage⟩

end TaskDispatch
