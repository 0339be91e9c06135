import TaskDispatch.Proofs.Queue.Withdrawal
import TaskDispatch.Proofs.Worker.Executions
import TaskDispatch.Proofs.Worker.Hiring
import TaskDispatch.Proofs.Worker.Turns

/-!
# The stop signal

The stop flag is raised once, by a termination or by dropping a running processor. Wherever the loop
is at that moment, at most the fetch that is under way still returns. What it brings, and what the
loop has in hand, is given a slot and handed over before the loop ends. A loop that has read the
flag does nothing any more.
-/

namespace TaskDispatch

set_option autoImplicit false

def LoopStage.fetches (stage : LoopStage) : Nat := if stage = .fetching then 1 else 0

theorem LoopStage.fetches_le_one (stage : LoopStage) : stage.fetches ≤ 1 := by
  unfold fetches
  split <;> omega

namespace Transition

variable {β η α : Type}

def RaisesStop (step : Transition β η α) : Prop :=
  step.before.processor.crew.stop = false ∧ step.after.processor.crew.stop = true

/-- The messages that a step of the loop takes out of those that wait. -/
def withdrawn (waiting : β → Multiset TaskMessage) (step : Transition β η α) :
    Multiset TaskMessage :=
  if step.move.isLoop then
    waiting step.before.shared.backend - waiting step.after.shared.backend
  else 0

end Transition

section Moves

variable {β η α : Type} {setting : Setting β η α} {index : Nat} {processor later : Processor β}
  {state next : β} {handlers changed : η} {move : Move α} {act : Option Act}

theorem raised_by_owner
    (moved : ServiceMove setting index processor state handlers move act later next changed)
    (unset : processor.crew.stop = false) (set : later.crew.stop = true) :
    (move = .terminate ∨ move = .abandon) ∧ processor.state = .running ∧
      later.crew.loop = processor.crew.loop := by
  have same : ∀ {crew : Crew}, crew.stop = processor.crew.stop → crew.stop ≠ true := by
    intro crew kept
    rw [kept, unset]
    exact Bool.false_ne_true
  cases moved with
  | terminating running => exact ⟨.inl rfl, running, rfl⟩
  | dropped running => exact ⟨.inr rfl, running, rfl⟩
  | dispatched step => cases step <;> exact absurd set (same rfl)
  | executed step => cases step <;> exact absurd set (same rfl)
  | closed step => cases step <;> exact absurd set (same rfl)
  | startRefused | startPanicked | started | terminationRefused | keptOn | acted =>
      exact absurd set (same rfl)

/-- Messages are received and handed over by the loop alone. -/
theorem alien_to_loop
    (moved : ServiceMove setting index processor state handlers move act later next changed)
    (other : move.isLoop = false) :
    act.bind Act.received? = none ∧ act.bind Act.admitted? = none := by
  cases moved with
  | dispatched => cases other
  | executed step => cases step <;> exact ⟨rfl, rfl⟩
  | startRefused | startPanicked | started | terminationRefused | terminating | closed | keptOn
  | dropped | acted => exact ⟨rfl, rfl⟩

theorem loop_move_withdraws {backend : Backend Party β} {waiting : β → Multiset TaskMessage}
    (takes : backend.FetchesFrom waiting) {timeout : Duration} {cause : WakeCause} {now : Moment}
    {crew after : Crew}
    (moved : LoopMove backend index timeout cause now crew state act after next) :
    waiting state = ↑(act.bind Act.received?).toList + waiting next := by
  cases moved with
  | stopped | overdue | admitted | queued | resumed => exact (zero_add _).symm
  | begun checking going fetch => exact (takes.begun fetch).symm.trans (zero_add _).symm
  | waiting fetching fetch => exact takes.advanced fetch
  | @answered _ _ answer fetching fetch =>
      have taken := takes.advanced fetch
      rcases answer with (error | _) | (_ | message) <;> exact taken

theorem loop_withdraws {waiting : β → Multiset TaskMessage}
    (takes : setting.plant.backend.FetchesFrom waiting)
    (moved : ServiceMove setting index processor state handlers move act later next changed)
    (loop : move.isLoop = true) :
    waiting state = ↑(act.bind Act.received?).toList + waiting next := by
  cases moved with
  | dispatched step => exact loop_move_withdraws takes step
  | startRefused | startPanicked | started | executed | terminationRefused | terminating | closed
  | keptOn | dropped | acted => cases loop

theorem withdrawn_is_received {waiting : β → Multiset TaskMessage}
    (takes : setting.plant.backend.FetchesFrom waiting) {step : Transition β η α}
    (moved : step.before.after? setting index step.move = some step.after) :
    step.withdrawn waiting = ↑((step.act? setting index).bind Act.received?).toList := by
  have possible := service_move_cases moved
  unfold Transition.withdrawn Transition.act?
  by_cases loop : step.move.isLoop = true
  · rw [if_pos loop, loop_withdraws takes possible loop, Multiset.add_sub_cancel_right]
  · rw [if_neg loop, (alien_to_loop possible (eq_false_of_ne_true loop)).1]
    rfl

end Moves

/-- The stop flag is set, and since then the acts have begun no fetch and ended at most so many as
were under way. -/
structure Crew.Halting (underWay : Nat) (acts : List Act) (crew : Crew) : Prop where
  stop : crew.stop = true
  unbegun : ∀ act ∈ acts, act.isFetchBegun = false
  ended : acts.countP Act.isFetchEnded + crew.loop.fetches ≤ underWay

section Halting

variable {β η α : Type} {setting : Setting β η α} {index underWay : Nat} {acts : List Act}
  {act : Option Act} {crew after : Crew}

theorem halting_after_other (halting : crew.Halting underWay acts) (stop : after.stop = true)
    (other : ∀ done, act = some done →
      done.isFetchBegun = false ∧ done.isFetchEnded = false)
    (loop : after.loop.fetches ≤ crew.loop.fetches) :
    after.Halting underWay (acts ++ act.toList) := by
  refine ⟨stop, ?_, ?_⟩
  · intro done member
    rcases List.mem_append.mp member with earlier | last
    · exact halting.unbegun done earlier
    · exact (other done (Option.mem_toList.mp last)).1
  · have noneEnded : act.toList.countP Act.isFetchEnded = 0 := by
      rw [List.countP_eq_zero]
      intro done last
      rw [(other done (Option.mem_toList.mp last)).2]
      exact Bool.false_ne_true
    have ended := halting.ended
    rw [List.countP_append, noneEnded]
    omega

theorem loop_move_halting {backend : Backend Party β} {timeout : Duration} {cause : WakeCause}
    {now : Moment} {state next : β}
    (moved : LoopMove backend index timeout cause now crew state act after next)
    (halting : crew.Halting underWay acts) : after.Halting underWay (acts ++ act.toList) := by
  cases moved with
  | stopped => exact halting_after_other halting halting.stop (by simp) (Nat.zero_le _)
  | overdue checking going | begun checking going =>
      rw [halting.stop] at going
      cases going
  | waiting => exact halting_after_other halting halting.stop (by simp) (Nat.le_refl _)
  | @answered _ _ answer fetching =>
      refine ⟨halting.stop, ?_, ?_⟩
      · intro done member
        rcases List.mem_append.mp member with earlier | last
        · exact halting.unbegun done earlier
        · rw [List.mem_singleton.mp last]
          rfl
      · have ended := halting.ended
        have past : (LoopStage.afterAnswer answer).fetches = 0 := by
          rcases answer with (error | _) | (_ | message) <;> rfl
        rw [fetching] at ended
        simp only [Option.toList_some, List.countP_append, List.countP_singleton,
          Act.isFetchEnded, past]
        exact ended
  | queued => exact halting_after_other halting halting.stop (by simp) (Nat.zero_le _)
  | admitted | resumed =>
      refine halting_after_other halting halting.stop ?_ (Nat.zero_le _)
      rintro _ ⟨⟩
      exact ⟨rfl, rfl⟩

theorem service_move_halting {processor later : Processor β} {state next : β}
    {handlers changed : η} {move : Move α}
    (moved : ServiceMove setting index processor state handlers move act later next changed)
    (halting : processor.crew.Halting underWay acts) :
    later.crew.Halting underWay (acts ++ act.toList) := by
  cases moved with
  | dispatched step => exact loop_move_halting step halting
  | executed step =>
      cases step with
      | handled | retired =>
          exact halting_after_other halting halting.stop (by simp) (Nat.le_refl _)
      | called | completed | failed =>
          refine halting_after_other halting halting.stop ?_ (Nat.le_refl _)
          rintro _ ⟨⟩
          exact ⟨rfl, rfl⟩
  | started | startPanicked =>
      refine halting_after_other halting halting.stop ?_ ?_
      · rintro _ ⟨⟩
        exact ⟨rfl, rfl⟩
      · simp [LoopStage.fetches]
  | closed step =>
      cases step with
      | joined | taken | finished | given | queued =>
          exact halting_after_other halting halting.stop (by simp) (Nat.le_refl _)
  | terminating | dropped =>
      exact halting_after_other halting rfl (by simp) (Nat.le_refl _)
  | startRefused | terminationRefused | keptOn | acted =>
      exact halting_after_other halting halting.stop (by simp) (Nat.le_refl _)

variable {origin service : Service β η} {steps : List (Transition β η α)}

theorem passage_halting (stop : origin.processor.crew.stop = true)
    (passage : Passage setting index origin steps service) :
    service.processor.crew.Halting origin.processor.crew.loop.fetches
      (actsOf setting index steps) := by
  induction passage with
  | begin => exact ⟨stop, by simp [actsOf], by simp [actsOf]⟩
  | next _ move moved ih =>
      rw [acts_of_concat]
      exact service_move_halting (service_move_cases moved) ih

/-- A loop that has ended does not move. -/
theorem ended_loop_stays {processor later : Processor β} {state next : β}
    {handlers changed : η} {move : Move α}
    (moved : ServiceMove setting index processor state handlers move act later next changed)
    (sound : processor.Sound index) (ended : processor.crew.loop.hasEnded = true) :
    later.crew.loop = processor.crew.loop ∧ move.isLoop = false := by
  cases moved with
  | started created =>
      rw [(sound.inPhase.unstarted created).1] at ended
      cases ended
  | dispatched step =>
      rw [(Processor.loop_active step.step).2.1] at ended
      cases ended
  | executed step => exact ⟨(Processor.runner_present step.step).2, rfl⟩
  | closed step => cases step <;> exact ⟨rfl, rfl⟩
  | startRefused | startPanicked | terminationRefused | terminating | keptOn | dropped
  | acted => exact ⟨rfl, rfl⟩

theorem ended_for_good (sound : origin.processor.Sound index)
    (ended : origin.processor.crew.loop.hasEnded = true)
    (passage : Passage setting index origin steps service) :
    service.processor.crew.loop = origin.processor.crew.loop ∧
      ∀ step ∈ steps, step.move.isLoop = false := by
  induction passage with
  | begin => exact ⟨rfl, by simp⟩
  | @next steps service later passage move moved ih =>
      obtain ⟨still, unmoved⟩ := ih
      have ended : service.processor.crew.loop.hasEnded = true := by
        rw [still]
        exact ended
      obtain ⟨stays, other⟩ :=
        ended_loop_stays (service_move_cases moved) (passage_keeps_sound sound passage) ended
      refine ⟨stays.trans still, fun step member => ?_⟩
      rcases List.mem_append.mp member with earlier | last
      · exact unmoved step earlier
      · rw [List.mem_singleton.mp last]
        exact other

theorem nobody_hired_after_end (sound : origin.processor.Sound index)
    (ended : origin.processor.crew.loop.hasEnded = true)
    (passage : Passage setting index origin steps service) :
    ∀ step ∈ steps, step.move.isLoop = false ∧ step.hired = [] := by
  intro step member
  have unmoved := (ended_for_good sound ended passage).2 step member
  obtain ⟨_, untilStep, made⟩ := passage_to_step passage member
  exact
    ⟨unmoved, nobody_hired_without_act made (passage_keeps_sound sound untilStep)
      (alien_to_loop (service_move_cases made) unmoved).2⟩

/-- A loop that reads the flag as set ends without an act. -/
theorem read_of_stop {processor later : Processor β} {state next : β} {handlers changed : η}
    {move : Move α}
    (moved : ServiceMove setting index processor state handlers move act later next changed)
    (loop : move.isLoop = true) (checking : processor.crew.loop = .checking)
    (stop : processor.crew.stop = true) :
    act = none ∧ later.crew.loop = .stopped ∧ next = state := by
  cases moved with
  | dispatched step =>
      cases step with
      | stopped => exact ⟨rfl, rfl, rfl⟩
      | overdue _ going | begun _ going =>
          rw [stop] at going
          cases going
      | waiting other | answered other | admitted other | queued other | resumed other =>
          rw [checking] at other
          cases other
  | startRefused | startPanicked | started | executed | terminationRefused | terminating | closed
  | keptOn | dropped | acted => cases loop

end Halting

section Signal

variable {β η α : Type} {config : ProcessorConfig} {failure : FailureHandler Party β}
  {processor : Processor β} {shared : Shared β η} {setting : Setting β η α} {index : Nat}
  {early late : List (Transition β η α)} {signal : Transition β η α} {service : Service β η}

/-- What a loop still does after the step that has raised its stop flag. -/
structure StopsFetching (setting : Setting β η α) (index : Nat)
    (early : List (Transition β η α)) (signal : Transition β η α)
    (late : List (Transition β η α)) (service : Service β η) : Prop where
  raised : (signal.move = .terminate ∨ signal.move = .abandon) ∧
    signal.before.processor.state = .running
  unbegun : ∀ act ∈ actsOf setting index late, act.isFetchBegun = false
  one_answer : (actsOf setting index late).countP Act.isFetchEnded ≤
    signal.before.processor.crew.loop.fetches
  one_message : ∀ waiting, setting.plant.backend.FetchesFrom waiting →
    (late.map (Transition.withdrawn waiting)).sum.card ≤ 1
  handed_over : (actsOf setting index (early ++ signal :: late)).filterMap Act.received? =
    ((early ++ signal :: late).flatMap Transition.hired).map Runner.message ++
      service.processor.crew.loop.held?.toList
  nothing_dropped : service.processor.crew.loop.hasEnded = true →
    (actsOf setting index (early ++ signal :: late)).filterMap Act.received? =
      ((early ++ signal :: late).flatMap Transition.hired).map Runner.message
  hires : ∀ step ∈ early ++ signal :: late, ∀ runner ∈ step.hired,
    step.before.processor.crew.Hires index step.after.processor.crew runner
  takes_turn : ∀ message queued, service.processor.crew.loop = .admitting message queued →
    ∀ cause now, service.after? setting index (.loop cause now) = none →
      service.processor.Crowded index ∧
        (∀ runner ∈ service.processor.crew.runners, ∀ (draw : Nat) (time : Moment),
          (∀ finish, runner.wakeTime = some finish → finish ≤ time.clock) →
            ∃ later, service.after? setting index (.runner runner.ticket draw time) =
              some later) ∧
        ∀ ticket draw time later,
          service.after? setting index (.runner ticket draw time) = some later →
            later.processor.crew.runnerOf? ticket = none →
              ∀ cause now,
                later.act? setting index (.loop cause now) =
                    some (.admitted (later.processor.crew.nextAssignment message)) ∧
                  ∃ last, later.after? setting index (.loop cause now) = some last ∧
                    later.processor.crew.Hires index last.processor.crew
                      (later.processor.crew.nextAssignment message).runner
  reads : ∀ (before after : List (Transition β η α)) (step : Transition β η α),
    late = before ++ step :: after → step.move.isLoop = true →
      step.before.processor.crew.loop = .checking →
        step.act? setting index = none ∧ step.hired = [] ∧
          step.after.shared.backend = step.before.shared.backend ∧
          step.after.processor.crew.loop = .stopped ∧
          ∀ next ∈ after, next.move.isLoop = false ∧ next.hired = []
  performed : ∀ step ∈ early ++ signal :: late, step.Performed setting index

theorem received_le_ended (acts : List Act) :
    (acts.filterMap Act.received?).length ≤ acts.countP Act.isFetchEnded := by
  induction acts with
  | nil => exact Nat.le_refl 0
  | cons act acts ih =>
      cases act with
      | fetchEnded answer =>
          rw [List.countP_cons_of_pos rfl]
          rcases answer with error | (_ | message) <;>
            simp only [List.filterMap_cons, Act.received?, List.length_cons] <;> omega
      | restored | fetchBegun | admitted | called | completed | failed =>
          rw [List.countP_cons_of_neg (by simp [Act.isFetchEnded])]
          exact ih

theorem withdrawn_from_waiting {waiting : β → Multiset TaskMessage}
    (takes : setting.plant.backend.FetchesFrom waiting) {steps : List (Transition β η α)}
    (moved : ∀ step ∈ steps, step.before.after? setting index step.move = some step.after) :
    (steps.map (Transition.withdrawn waiting)).sum =
      ↑((actsOf setting index steps).filterMap Act.received?) := by
  induction steps with
  | nil => rfl
  | cons step steps ih =>
      have rest := ih fun other member => moved other (List.mem_cons_of_mem _ member)
      rw [List.map_cons, List.sum_cons, rest,
        withdrawn_is_received takes (moved step List.mem_cons_self)]
      unfold actsOf
      rw [List.filterMap_cons]
      cases act : step.act? setting index with
      | none => exact zero_add _
      | some done => cases received : done.received? <;> simp [received]

theorem withdrawn_le_ended {waiting : β → Multiset TaskMessage}
    (takes : setting.plant.backend.FetchesFrom waiting) {origin : Service β η}
    {steps : List (Transition β η α)} (passage : Passage setting index origin steps service) :
    (steps.map (Transition.withdrawn waiting)).sum.card ≤
      (actsOf setting index steps).countP Act.isFetchEnded := by
  have moved : ∀ step ∈ steps, step.before.after? setting index step.move = some step.after := by
    intro step member
    obtain ⟨_, _, made⟩ := passage_to_step passage member
    exact made
  rw [withdrawn_from_waiting takes moved, Multiset.coe_card]
  exact received_le_ended _

/-- A loop that cannot hand its message over has asked for a slot and waits for it. -/
theorem admission_blocked {message : TaskMessage} {queued : Bool} {cause : WakeCause}
    {now : Moment} (loop : service.processor.crew.loop = .admitting message queued)
    (blocked : service.after? setting index (.loop cause now) = none) :
    service.processor.crew.loop = .admitting message true ∧
      .loop index ∉ service.processor.crew.slots.granted := by
  rcases loop_blocked blocked with idle | ended | ⟨fetching, _⟩ | ⟨held, waits, ungranted⟩
  · rw [loop] at idle
    cases idle
  · rw [loop] at ended
    cases ended
  · rw [loop] at fetching
    cases fetching
  · rw [loop] at waits
    cases waits
    exact ⟨loop, ungranted⟩

/-- The slot of the first runner that is gone is the turn of a loop that waits: it hires. -/
theorem turn_after_retirement {message : TaskMessage} {ticket draw : Nat} {time : Moment}
    {later : Service β η} (crowded : service.processor.Crowded index)
    (queued : service.processor.crew.loop = .admitting message true)
    (moved : service.after? setting index (.runner ticket draw time) = some later)
    (gone : later.processor.crew.runnerOf? ticket = none) (cause : WakeCause) (now : Moment) :
    later.act? setting index (.loop cause now) =
        some (.admitted (later.processor.crew.nextAssignment message)) ∧
      ∃ last, later.after? setting index (.loop cause now) = some last ∧
        later.processor.crew.Hires index last.processor.crew
          (later.processor.crew.nextAssignment message).runner := by
  simp only [Service.after?, Option.map_eq_some_iff, Prod.exists] at moved
  obtain ⟨crew, shared, advanced, rfl⟩ := moved
  obtain ⟨granted, loop⟩ :=
    granted_after_retirement (runner_move_cases advanced) crowded.line gone
  exact granted_loop_admits (loop.trans queued) granted

/-- At whatever moment the stop flag of a processor is raised, and whatever its loop is doing then:
one more fetch may return, its message is handed over, and the loop ends. -/
theorem stop_signal (setting : Setting β η α) (index : Nat)
    (created : Processor.new? config failure = some processor)
    (passage : Passage setting index { processor := processor, shared := shared }
      (early ++ signal :: late) service)
    (raises : signal.RaisesStop) :
    StopsFetching setting index early signal late service ∧
      (MemoryQueue.backend : Backend Party (MemoryQueue Party)).FetchesFrom
        MemoryQueue.awaiting := by
  obtain ⟨first, moved, rest⟩ := passage_around passage
  have transcribed := passage_transcribed created passage
  have sound := (passage_sound created passage).1
  obtain ⟨raised, running, sameLoop⟩ :=
    raised_by_owner (service_move_cases moved) raises.1 raises.2
  have halting := passage_halting raises.2 rest
  rw [sameLoop] at halting
  have oneAnswer : (actsOf setting index late).countP Act.isFetchEnded ≤
      signal.before.processor.crew.loop.fetches := Nat.le_of_add_right_le halting.ended
  have handedOver : (actsOf setting index (early ++ signal :: late)).filterMap Act.received? =
      ((early ++ signal :: late).flatMap Transition.hired).map Runner.message ++
        service.processor.crew.loop.held?.toList := by
    rw [transcribed.received, passage_hired created passage, List.map_map]
    rfl
  refine ⟨?_, MemoryQueue.fetches_from_awaiting⟩
  constructor
  case raised => exact ⟨raised, running⟩
  case unbegun => exact halting.unbegun
  case one_answer => exact oneAnswer
  case one_message =>
    intro waiting takes
    calc
      (late.map (Transition.withdrawn waiting)).sum.card ≤
          (actsOf setting index late).countP Act.isFetchEnded := withdrawn_le_ended takes rest
      _ ≤ signal.before.processor.crew.loop.fetches := oneAnswer
      _ ≤ 1 := LoopStage.fetches_le_one _
  case handed_over => exact handedOver
  case nothing_dropped =>
    intro ended
    rw [handedOver, LoopStage.ended_held ended, Option.toList_none, List.append_nil]
  case hires =>
    intro step member runner isNew
    exact passage_hires created passage member isNew
  case takes_turn =>
    intro message queued loop cause now blocked
    obtain ⟨queued, ungranted⟩ := admission_blocked loop blocked
    have crowded := crowded_of_ungranted sound (passage_prompt created passage) queued ungranted
    refine ⟨crowded, ?_, ?_⟩
    · intro runner member draw time past
      exact runner_goes_on sound.budgeted.ticketed member draw past
    · intro ticket draw time later retired gone
      exact turn_after_retirement crowded queued retired gone
  case reads =>
    rintro before after step rfl loop checking
    obtain ⟨untilRead, read, behind⟩ := passage_around rest
    obtain ⟨silent, stopped, sameState⟩ :=
      read_of_stop (service_move_cases read) loop checking
        (passage_halting raises.2 untilRead).stop
    have soundBefore : step.before.processor.Sound index :=
      (passage_sound created (passage_trans (first.next _ moved) untilRead)).1
    have soundThen : step.after.processor.Sound index :=
      passage_keeps_sound soundBefore (.next .begin _ read)
    have silentAct : (step.act? setting index).bind Act.admitted? = none := by
      rw [Transition.act?, silent]
      rfl
    exact
      ⟨silent, nobody_hired_without_act read soundBefore silentAct, sameState, stopped,
        nobody_hired_after_end soundThen (by rw [stopped]; rfl) behind⟩
  case performed =>
    intro step member
    exact passage_performed passage member

end Signal

namespace Rehearsal

/-- Until the loop has ended, after the stop flag was raised while it waited for a slot. -/
def windingUp : List (Move TaskMessage) :=
  [.runner 0 0 now, .runner 0 0 now, .runner 0 0 now, .loop .told now, .loop .told now]

end Rehearsal

open Rehearsal in
theorem rehearsal_stop_signal :
    ∃ signal last,
      Transition.RaisesStop signal ∧
        StopsFetching (MemoryQueue.setting handler) 0
          (Service.transitions (MemoryQueue.setting handler) 0 (opening ++ crowding)
            { processor := processor, shared := shared })
          signal
          (Service.transitions (MemoryQueue.setting handler) 0 windingUp signal.after) last := by
  have ran : ∃ deeds waiting, Service.run (MemoryQueue.setting handler) 0 (opening ++ crowding)
        { processor := processor, shared := shared } = some (deeds, waiting) ∧
      waiting.processor.crew.stop = false ∧
      ∃ stopping more last,
        waiting.after? (MemoryQueue.setting handler) 0 .terminate = some stopping ∧
          stopping.processor.crew.stop = true ∧
          stopping.run (MemoryQueue.setting handler) 0 windingUp = some (more, last) :=
    ⟨_, _, rfl, rfl, _, _, _, rfl, rfl, rfl⟩
  obtain ⟨_, waiting, ran, unset, stopping, _, last, moved, set, woundUp⟩ := ran
  let signal : Transition (MemoryQueue Party) Unit TaskMessage :=
    { before := waiting, move := .terminate, after := stopping }
  have passage := passage_trans ((passage_of_run ran).next .terminate moved)
    (passage_of_run woundUp)
  rw [List.append_assoc, List.singleton_append] at passage
  have raises : signal.RaisesStop := ⟨unset, set⟩
  exact
    ⟨signal, last, raises,
      (stop_signal (MemoryQueue.setting handler) 0 created passage raises).1⟩

end TaskDispatch
