import TaskDispatch.Proofs.Worker.Passage

/-!
# New runners

The runners that a step has added to a crew are those whose tickets are new in it. There is at most
one, and only where the loop hands over the message that it holds: it joins the others with that
message, ready to begin, and with a slot that the loop takes for it at this moment.
-/

namespace TaskDispatch

set_option autoImplicit false

def Assignment.runner (assignment : Assignment) : Runner where
  ticket := assignment.ticket
  message := assignment.message
  stage := .ready

namespace Crew

/-- The runners of a later crew that are not in this one. -/
def hired (before after : Crew) : List Runner :=
  after.runners.filter fun runner => decide (runner.ticket ∉ before.runners.map Runner.ticket)

/-- The loop has handed its message over, with a slot that was free or was kept for it. -/
structure Hires (index : Nat) (before after : Crew) (runner : Runner) : Prop where
  held : before.loop.held? = some runner.message
  ready : runner.stage = .ready
  joined : after.runners = before.runners ++ [runner]
  released : after.loop = .checking
  slot :
    (0 < before.slots.free ∧
        after.slots = { before.slots with free := before.slots.free - 1 }) ∨
      (.loop index ∈ before.slots.granted ∧
        after.slots =
          { before.slots with granted := before.slots.granted.erase (.loop index) })

variable {crew next : Crew}

theorem nobody_hired
    (known : ∀ runner ∈ next.runners, runner.ticket ∈ crew.runners.map Runner.ticket) :
    crew.hired next = [] := by
  unfold hired
  rw [List.filter_eq_nil_iff]
  intro runner member isNew
  exact of_decide_eq_true isNew (known runner member)

theorem nobody_hired_by_same (same : next.runners = crew.runners) : crew.hired next = [] := by
  apply nobody_hired
  intro runner member
  rw [same] at member
  exact List.mem_map_of_mem member

theorem hired_by_assign (ticketed : crew.Ticketed) (slots : Slots Party) (message : TaskMessage) :
    crew.hired (({ crew with slots := slots } : Crew).assign message) =
      [(crew.nextAssignment message).runner] := by
  have old : crew.runners.filter (fun runner =>
      decide (runner.ticket ∉ crew.runners.map Runner.ticket)) = [] :=
    nobody_hired_by_same rfl
  have unused : crew.nextTicket ∉ crew.runners.map Runner.ticket := by
    intro used
    obtain ⟨runner, member, same⟩ := List.mem_map.mp used
    exact Nat.ne_of_lt (ticketed.given runner member) same
  unfold hired assign
  rw [List.filter_append, old, List.nil_append, List.filter_singleton,
    decide_eq_true unused]
  rfl

end Crew

section Moves

variable {β η α : Type} {crew next : Crew} {index : Nat} {act : Option Act}

theorem hired_by_loop {backend : Backend Party β} {timeout : Duration} {cause : WakeCause}
    {now : Moment} {state later : β}
    (move : LoopMove backend index timeout cause now crew state act next later)
    (ticketed : crew.Ticketed) :
    crew.hired next = (act.bind Act.admitted?).toList.map Assignment.runner := by
  cases move with
  | stopped | overdue | begun | waiting | answered | queued =>
      exact Crew.nobody_hired_by_same rfl
  | admitted | resumed => exact Crew.hired_by_assign ticketed _ _

theorem hired_by_runner {plant : Plant β η} {failure : FailureHandler Party β}
    {ticket draw : Nat} {now : Moment} {state later : β} {handlers changed : η}
    (move : RunnerMove plant failure ticket draw now crew state handlers act next later changed) :
    crew.hired next = (act.bind Act.admitted?).toList.map Assignment.runner := by
  have replaced (runner : Runner) : crew.hired (crew.setRunner runner) = [] := by
    apply Crew.nobody_hired
    intro other member
    rw [← crew.set_runner_tickets runner]
    exact List.mem_map_of_mem member
  cases move with
  | called | handled | completed | failed => exact replaced _
  | retired =>
      apply Crew.nobody_hired
      intro other member
      exact List.mem_map_of_mem (List.mem_of_mem_filter member)

variable {setting : Setting β η α} {processor later : Processor β} {state last : β}
  {handlers changed : η} {move : Move α}

/-- The new runners are those that the act of a step names. -/
theorem hired_by_service
    (moved : ServiceMove setting index processor state handlers move act later last changed)
    (ticketed : processor.crew.Ticketed) :
    processor.crew.hired later.crew =
      (act.bind Act.admitted?).toList.map Assignment.runner := by
  cases moved with
  | dispatched step => exact hired_by_loop step ticketed
  | executed step => exact hired_by_runner step
  | closed step => cases step <;> exact Crew.nobody_hired_by_same rfl
  | startRefused | startPanicked | started | terminationRefused | terminating | keptOn | dropped
  | acted => exact Crew.nobody_hired_by_same rfl

theorem hires_by_admission {assignment : Assignment}
    (moved : ServiceMove setting index processor state handlers move
      (some (.admitted assignment)) later last changed) :
    processor.crew.Hires index later.crew assignment.runner := by
  cases moved with
  | executed step => cases step
  | dispatched step =>
      cases step with
      | admitted holding room =>
          exact
            { held := by rw [holding]; rfl
              ready := rfl
              joined := rfl
              released := rfl
              slot := .inl ⟨room, rfl⟩ }
      | resumed holding granted =>
          exact
            { held := by rw [holding]; rfl
              ready := rfl
              joined := rfl
              released := rfl
              slot := .inr ⟨granted, rfl⟩ }

/-- Whoever is new was hired by the loop. -/
theorem hires_of_hired
    (moved : ServiceMove setting index processor state handlers move act later last changed)
    (ticketed : processor.crew.Ticketed) {runner : Runner}
    (isNew : runner ∈ processor.crew.hired later.crew) :
    processor.crew.Hires index later.crew runner := by
  rw [hired_by_service moved ticketed] at isNew
  obtain ⟨assignment, named, rfl⟩ := List.mem_map.mp isNew
  obtain ⟨done, rfl, admitted⟩ := Option.bind_eq_some_iff.mp (Option.mem_toList.mp named)
  cases done with
  | admitted =>
      obtain rfl := Option.some.inj admitted
      exact hires_by_admission moved
  | restored | fetchBegun | fetchEnded | called | completed | failed => cases admitted

end Moves

def Transition.hired {β η α : Type} (step : Transition β η α) : List Runner :=
  step.before.processor.crew.hired step.after.processor.crew

section Passages

variable {β η α : Type} {setting : Setting β η α} {index : Nat} {config : ProcessorConfig}
  {failure : FailureHandler Party β} {processor : Processor β} {shared : Shared β η}
  {steps : List (Transition β η α)} {service : Service β η}

theorem passage_hired (created : Processor.new? config failure = some processor)
    (passage : Passage setting index { processor := processor, shared := shared } steps service) :
    steps.flatMap Transition.hired =
      ((actsOf setting index steps).filterMap Act.admitted?).map Assignment.runner := by
  induction passage with
  | begin => rfl
  | @next steps service later passage move moved ih =>
      have ticketed := (passage_sound created passage).1.budgeted.ticketed
      let step : Transition β η α := { before := service, move := move, after := later }
      have last : step.hired =
          ((step.act? setting index).bind Act.admitted?).toList.map Assignment.runner :=
        hired_by_service (service_move_cases moved) ticketed
      rw [List.flatMap_append, List.flatMap_singleton, ih, last, acts_of_concat,
        List.filterMap_append, List.map_append]
      cases step.act? setting index with
      | none => rfl
      | some done => cases admitted : done.admitted? <;> simp [admitted]

theorem nobody_hired_without_act {step : Transition β η α}
    (moved : step.before.after? setting index step.move = some step.after)
    (sound : step.before.processor.Sound index)
    (silent : (step.act? setting index).bind Act.admitted? = none) : step.hired = [] := by
  have hired : step.hired =
      ((step.act? setting index).bind Act.admitted?).toList.map Assignment.runner :=
    hired_by_service (service_move_cases moved) sound.budgeted.ticketed
  rw [hired, silent]
  rfl

/-- In every step of a passage whoever is new was hired by the loop. -/
theorem passage_hires (created : Processor.new? config failure = some processor)
    (passage : Passage setting index { processor := processor, shared := shared } steps service)
    {step : Transition β η α} (member : step ∈ steps) {runner : Runner}
    (isNew : runner ∈ step.hired) :
    step.before.processor.crew.Hires index step.after.processor.crew runner := by
  obtain ⟨early, before, moved⟩ := passage_to_step passage member
  have ticketed := (passage_sound created before).1.budgeted.ticketed
  exact hires_of_hired (service_move_cases moved) ticketed isNew

end Passages

end TaskDispatch
