import Mathlib.Data.List.Range
import TaskDispatch.Proofs.Worker.Phases

/-!
# The ledger of a processor

The deeds of a course tell what became of every message. What was fetched is what was handed over
and what the loop still holds, in the same order. Every assignment has a ticket of its own and is
with its runner until that runner gives its slot back; its report comes once, and before that.
-/

namespace TaskDispatch

set_option autoImplicit false

theorem filter_map_concat {Item Image : Type} (image? : Item → Option Image) (items : List Item)
    (last : Item) :
    (items ++ [last]).filterMap image? = items.filterMap image? ++ (image? last).toList := by
  rw [List.filterMap_append]
  rfl

namespace Crew

def settled (crew : Crew) : List Assignment :=
  (crew.runners.filter fun runner => runner.stage.hasEnded).map Runner.assignment

/-- The deeds so far account for what the crew holds. -/
structure Recorded {α : Type} (deeds : List (Deed α)) (crew : Crew) : Prop where
  fetched : deeds.filterMap Deed.fetched? =
    (deeds.filterMap Deed.assigned?).map Assignment.message ++ crew.loop.held?.toList
  tickets : (deeds.filterMap Deed.assigned?).map Assignment.ticket = List.range crew.nextTicket
  assigned : (deeds.filterMap Deed.assigned?).Perm
    (crew.runners.map Runner.assignment ++ deeds.filterMap Deed.released?)
  reported : (deeds.filterMap Deed.reported?).Perm
    (crew.settled ++ deeds.filterMap Deed.released?)

section Runners

variable {α : Type} {crew : Crew} {ticket : Nat} {runner changed : Runner}

theorem deed_of_set_runner (found : crew.runnerOf? ticket = some runner)
    (same : changed.ticket = runner.ticket) :
    crew.runnerDeed? ticket (crew.setRunner changed) =
      if runner.stage.hasEnded = false ∧ changed.stage.hasEnded = true then
        some (Deed.reported (α := α) runner.assignment)
      else none := by
  unfold runnerDeed?
  rw [found, found_after_set_runner found changed same]

theorem deed_of_retirement (found : crew.runnerOf? ticket = some runner)
    (slots : Slots Party) :
    crew.runnerDeed? ticket { crew with slots := slots, runners := crew.others ticket } =
      some (Deed.released (α := α) runner.assignment) := by
  have gone : ({ crew with slots := slots, runners := crew.others ticket } :
      Crew).runnerOf? ticket = none := nobody_found_among_others crew ticket
  unfold runnerDeed?
  rw [found, gone]

/-- A crew whose runners are one runner and some others has settled accordingly. -/
theorem settled_around {others : List Runner} (around : crew.runners.Perm (runner :: others)) :
    crew.settled.Perm
      ((if runner.stage.hasEnded then [runner.assignment] else [])
        ++ (others.filter fun other => other.stage.hasEnded).map Runner.assignment) := by
  unfold settled
  have filtered := (around.filter fun other => other.stage.hasEnded).map Runner.assignment
  rw [List.filter_cons] at filtered
  split at filtered
  case isTrue ended =>
    rw [if_pos ended]
    exact filtered
  case isFalse unended =>
    rw [if_neg unended]
    exact filtered

end Runners

namespace Recorded

variable {α : Type} {deeds : List (Deed α)} {crew next : Crew}

theorem unchanged (recorded : crew.Recorded deeds) (held : next.loop.held? = crew.loop.held?)
    (runners : next.runners = crew.runners) (tickets : next.nextTicket = crew.nextTicket) :
    next.Recorded deeds where
  fetched := by
    rw [held]
    exact recorded.fetched
  tickets := by
    rw [tickets]
    exact recorded.tickets
  assigned := by
    rw [runners]
    exact recorded.assigned
  reported := by
    unfold settled
    rw [runners]
    exact recorded.reported

theorem after_fetch {message : TaskMessage} (recorded : crew.Recorded deeds)
    (holding : crew.loop.held? = none) (stage : LoopStage) (held : stage.held? = some message) :
    ({ crew with loop := stage } : Crew).Recorded (deeds ++ [.fetched message]) := by
  have fetched := recorded.fetched
  rw [holding, Option.toList_none, List.append_nil] at fetched
  constructor
  · simp only [filter_map_concat, Deed.fetched?, Deed.assigned?, Option.toList_some,
      Option.toList_none, List.append_nil, held, fetched]
  · simpa only [filter_map_concat, Deed.assigned?, Option.toList_none,
      List.append_nil] using recorded.tickets
  · simpa only [filter_map_concat, Deed.assigned?, Deed.released?, Option.toList_none,
      List.append_nil] using recorded.assigned
  · have reported := recorded.reported
    simpa only [filter_map_concat, Deed.reported?, Deed.released?, Option.toList_none,
      List.append_nil, settled] using reported

theorem after_assignment {message : TaskMessage} (recorded : crew.Recorded deeds)
    (holding : crew.loop.held? = some message) (slots : Slots Party) :
    (({ crew with slots := slots } : Crew).assign message).Recorded
      (deeds ++ [.assigned { ticket := crew.nextTicket, message := message }]) := by
  have fetched := recorded.fetched
  rw [holding, Option.toList_some] at fetched
  constructor
  · simp only [filter_map_concat, Deed.fetched?, Deed.assigned?, Option.toList_some,
      Option.toList_none, List.append_nil, List.map_append, List.map_cons, List.map_nil, fetched,
      assign, LoopStage.held?]
  · simp only [filter_map_concat, Deed.assigned?, Option.toList_some, List.map_append,
      List.map_cons, List.map_nil, recorded.tickets, assign, List.range_succ]
  · simp only [filter_map_concat, Deed.assigned?, Deed.released?, Option.toList_some,
      Option.toList_none, List.append_nil, assign, List.map_append, List.map_cons, List.map_nil,
      List.append_assoc]
    refine (recorded.assigned.append_right _).trans ?_
    rw [List.append_assoc]
    exact List.perm_append_comm.append_left _
  · have settledSame : (({ crew with slots := slots } : Crew).assign message).settled =
        crew.settled := by
      simp [settled, assign, RunnerStage.hasEnded]
    rw [settledSame]
    simpa only [filter_map_concat, Deed.reported?, Deed.released?, Option.toList_none,
      List.append_nil] using recorded.reported

theorem after_loop_step {β : Type} {backend : Backend Party β} {index : Nat}
    {state later : β} (step : LoopStep backend index crew state next later)
    (recorded : crew.Recorded deeds) :
    next.Recorded (deeds ++ (crew.loopDeed? next).toList) := by
  have quiet (nothing : crew.loopDeed? next = (none : Option (Deed α)))
      (held : next.loop.held? = crew.loop.held?) (runners : next.runners = crew.runners)
      (tickets : next.nextTicket = crew.nextTicket) :
      next.Recorded (deeds ++ (crew.loopDeed? next).toList) := by
    rw [nothing, Option.toList_none, List.append_nil]
    exact recorded.unchanged held runners tickets
  cases step with
  | waiting loop => exact quiet (by simp [loopDeed?, loop]) rfl rfl rfl
  | stopped loop | overdue loop | begun loop | empty loop | panicked loop | queued loop =>
      exact quiet (by simp [loopDeed?, loop]) (by simp [loop, LoopStage.held?]) rfl rfl
  | @received _ _ _ _ message loop =>
      have deed : crew.loopDeed? { crew with loop := .admitting message false } =
          some (Deed.fetched (α := α) message) := by
        simp [loopDeed?, loop]
      rw [deed, Option.toList_some]
      exact recorded.after_fetch (by simp [loop, LoopStage.held?]) _ rfl
  | @admitted message loop =>
      have held : crew.loop.held? = some message := by simp [loop, LoopStage.held?]
      have recorded := recorded.after_assignment held
        { crew.slots with free := crew.slots.free - 1 }
      simpa [loopDeed?, loop, assign] using recorded
  | @resumed message loop =>
      have held : crew.loop.held? = some message := by simp [loop, LoopStage.held?]
      have recorded := recorded.after_assignment held
        { crew.slots with granted := crew.slots.granted.erase (.loop index) }
      simpa [loopDeed?, loop, assign] using recorded

/-- A runner that goes on with its assignment is recorded if its report, once it has ended, is. -/
theorem after_progress {ticket : Nat} {runner changed : Runner}
    (found : crew.runnerOf? ticket = some runner) (ticketed : crew.Ticketed)
    (same : changed.assignment = runner.assignment) (unended : runner.stage.hasEnded = false)
    (recorded : crew.Recorded deeds) :
    (crew.setRunner changed).Recorded
      (deeds ++ (crew.runnerDeed? ticket (crew.setRunner changed)).toList) := by
  have ticketSame : changed.ticket = runner.ticket := congrArg Assignment.ticket same
  have around := runners_around found ticketed
  have changedAround := set_runner_around found ticketed changed ticketSame
  have assignments : (crew.runners.map Runner.assignment).Perm
      ((crew.setRunner changed).runners.map Runner.assignment) := by
    have before := around.map Runner.assignment
    have after := changedAround.map Runner.assignment
    rw [List.map_cons, same] at after
    exact before.trans after.symm
  have settledBefore := settled_around around
  have settledAfter := settled_around changedAround
  rw [if_neg (by simp [unended]), List.nil_append] at settledBefore
  rw [deed_of_set_runner found ticketSame]
  by_cases ended : changed.stage.hasEnded = true
  · rw [if_pos ⟨unended, ended⟩, Option.toList_some]
    rw [if_pos ended, same, List.singleton_append] at settledAfter
    constructor
    · simpa only [filter_map_concat, Deed.fetched?, Deed.assigned?, Option.toList_none,
        List.append_nil, setRunner] using recorded.fetched
    · simpa only [filter_map_concat, Deed.assigned?, Option.toList_none,
        List.append_nil, setRunner] using recorded.tickets
    · simp only [filter_map_concat, Deed.assigned?, Deed.released?, Option.toList_none,
        List.append_nil]
      exact recorded.assigned.trans (assignments.append_right _)
    · simp only [filter_map_concat, Deed.reported?, Deed.released?, Option.toList_some,
        Option.toList_none, List.append_nil]
      calc
        (deeds.filterMap Deed.reported? ++ [runner.assignment]).Perm
            (runner.assignment :: deeds.filterMap Deed.reported?) :=
          List.perm_append_singleton _ _
        (runner.assignment :: deeds.filterMap Deed.reported?).Perm
            (runner.assignment :: (crew.settled ++ deeds.filterMap Deed.released?)) :=
          recorded.reported.cons _
        (runner.assignment :: (crew.settled ++ deeds.filterMap Deed.released?)).Perm
            ((crew.setRunner changed).settled ++ deeds.filterMap Deed.released?) :=
          ((settledBefore.cons _).trans settledAfter.symm).append_right _
  · rw [if_neg (fun both => ended both.2), Option.toList_none, List.append_nil]
    rw [if_neg ended, List.nil_append] at settledAfter
    exact
      { fetched := recorded.fetched
        tickets := recorded.tickets
        assigned := recorded.assigned.trans (assignments.append_right _)
        reported :=
          recorded.reported.trans ((settledBefore.trans settledAfter.symm).append_right _) }

theorem after_retirement {ticket : Nat} {runner : Runner}
    (found : crew.runnerOf? ticket = some runner) (ticketed : crew.Ticketed)
    (ended : runner.stage.hasEnded = true) (slots : Slots Party)
    (recorded : crew.Recorded deeds) :
    ({ crew with slots := slots, runners := crew.others ticket } : Crew).Recorded
      (deeds ++ [.released runner.assignment]) := by
  have around := runners_around found ticketed
  have settled := settled_around around
  rw [if_pos ended, List.singleton_append] at settled
  have handedBack (kept released : List Assignment) :
      (runner.assignment :: kept ++ released).Perm
        (kept ++ (released ++ [runner.assignment])) := by
    rw [← List.append_assoc]
    exact (List.perm_append_singleton _ _).symm
  constructor
  · simpa only [filter_map_concat, Deed.fetched?, Deed.assigned?, Option.toList_none,
      List.append_nil] using recorded.fetched
  · simpa only [filter_map_concat, Deed.assigned?, Option.toList_none,
      List.append_nil] using recorded.tickets
  · simp only [filter_map_concat, Deed.assigned?, Deed.released?, Option.toList_some,
      Option.toList_none, List.append_nil]
    exact (recorded.assigned.trans ((around.map Runner.assignment).append_right _)).trans
      (handedBack _ _)
  · simp only [filter_map_concat, Deed.reported?, Deed.released?, Option.toList_some,
      Option.toList_none, List.append_nil]
    exact (recorded.reported.trans (settled.append_right _)).trans (handedBack _ _)

theorem after_runner_step {β : Type} {backend : Backend Party β}
    {failure : FailureHandler Party β} {ticket : Nat} {state later : β}
    (step : RunnerStep backend failure ticket crew state next later) (ticketed : crew.Ticketed)
    (recorded : crew.Recorded deeds) :
    next.Recorded (deeds ++ (crew.runnerDeed? ticket next).toList) := by
  cases step with
  | called found stage | handled found stage | completed found stage | failed found stage =>
      exact recorded.after_progress found ticketed rfl (by simp [stage, RunnerStage.hasEnded])
  | retired found ended =>
      have deed := deed_of_retirement (α := α) found crew.slots.release.1
      simp only [others] at deed
      rw [deed]
      exact recorded.after_retirement found ticketed ended crew.slots.release.1

end Recorded

end Crew

section Courses

variable {β η α : Type} {setting : Setting β η α} {index : Nat}

theorem new_processor_recorded {config : ProcessorConfig} {failure : FailureHandler Party β}
    {processor : Processor β} (created : Processor.new? config failure = some processor) :
    processor.crew.Recorded ([] : List (Deed α)) := by
  simp only [Processor.new?, Crew.new?, Option.map_map, Option.map_eq_some_iff] at created
  obtain ⟨slots, _, rfl⟩ := created
  exact ⟨rfl, rfl, List.Perm.refl _, List.Perm.refl _⟩

theorem service_step_recorded {processor later : Processor β} {state next : β}
    {deeds : List (Deed α)} {deed : Option (Deed α)}
    (step : ServiceStep setting index processor state deed later next)
    (sound : processor.Sound index) (recorded : processor.crew.Recorded deeds) :
    later.crew.Recorded (deeds ++ deed.toList) := by
  cases step with
  | refused | unrestored =>
      simpa using recorded
  | started created =>
      have idle := (sound.inPhase.unstarted created).1
      rw [Option.toList_none, List.append_nil]
      exact recorded.unchanged (by simp [idle, LoopStage.held?]) rfl rfl
  | dispatched step => exact recorded.after_loop_step step
  | executed step => exact recorded.after_runner_step step sound.budgeted.ticketed
  | terminating | dropped =>
      rw [Option.toList_none, List.append_nil]
      exact recorded.unchanged rfl rfl rfl
  | closed step =>
      rw [Option.toList_none, List.append_nil]
      cases step with
      | joined | taken | finished | given | queued => exact recorded.unchanged rfl rfl rfl
  | acted action =>
      exact
        { fetched := by simpa only [Option.toList_some, filter_map_concat, Deed.fetched?,
            Deed.assigned?, Option.toList_none, List.append_nil] using recorded.fetched
          tickets := by simpa only [Option.toList_some, filter_map_concat, Deed.assigned?,
            Option.toList_none, List.append_nil] using recorded.tickets
          assigned := by simpa only [Option.toList_some, filter_map_concat, Deed.assigned?,
            Deed.released?, Option.toList_none, List.append_nil] using recorded.assigned
          reported := by simpa only [Option.toList_some, filter_map_concat, Deed.reported?,
            Deed.released?, Option.toList_none, List.append_nil] using recorded.reported }

variable {config : ProcessorConfig} {failure : FailureHandler Party β}
  {processor : Processor β} {shared : Shared β η} {service : Service β η}
  {deeds : List (Deed α)}

theorem course_recorded (created : Processor.new? config failure = some processor)
    (course : Course setting index { processor := processor, shared := shared } deeds service) :
    service.processor.Sound index ∧ service.processor.crew.Recorded deeds := by
  refine course_keeps
    (fun deeds processor _ => processor.Sound index ∧ processor.crew.Recorded deeds) course
    ⟨Processor.new_processor_sound created, new_processor_recorded created⟩ ?_
  intro deeds processor later state next deed step before
  exact
    ⟨Processor.service_step_sound step before.1, service_step_recorded step before.1 before.2⟩

theorem assigned_nodup (created : Processor.new? config failure = some processor)
    (course : Course setting index { processor := processor, shared := shared } deeds service) :
    (deeds.filterMap Deed.assigned?).Nodup := by
  have tickets := (course_recorded created course).2.tickets
  have distinct : ((deeds.filterMap Deed.assigned?).map Assignment.ticket).Nodup := by
    rw [tickets]
    exact List.nodup_range
  exact distinct.of_map Assignment.ticket

theorem reported_nodup (created : Processor.new? config failure = some processor)
    (course : Course setting index { processor := processor, shared := shared } deeds service) :
    (deeds.filterMap Deed.reported?).Nodup := by
  obtain ⟨_, recorded⟩ := course_recorded created course
  have distinct := recorded.assigned.nodup_iff.mp (assigned_nodup created course)
  have settled : (service.processor.crew.settled ++ deeds.filterMap Deed.released?).Sublist
      (service.processor.crew.runners.map Runner.assignment
        ++ deeds.filterMap Deed.released?) :=
    (List.filter_sublist.map Runner.assignment).append_right _
  exact recorded.reported.nodup_iff.mpr (distinct.sublist settled)

end Courses

end TaskDispatch
