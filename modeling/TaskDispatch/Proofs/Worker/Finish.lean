import TaskDispatch.Proofs.Worker.Engagement
import TaskDispatch.Proofs.Worker.Fleet

/-!
# Settled means finished

The counts of a queue are settled when nothing is pending, in progress or scheduled. A message is
never anywhere else on its way, so the processor that works on the queue has then no message in
hand and has reported on all it has fetched. And nothing comes back: until a message is added again,
no handler is called and every fetch ends with nothing, whatever the processor and others that join
it on the queue do.
-/

namespace TaskDispatch

set_option autoImplicit false

section Conclusion

variable {η : Type} {handler : Handler η} {index : Nat} {policy : RetryPolicy}
  {processor : Processor (MemoryQueue Party)} {config : ProcessorConfig}
  {shared : Shared (MemoryQueue Party) η} {deeds : List (Deed TaskMessage)}
  {service : Service (MemoryQueue Party) η}

/-- The loop has no message in hand, and everything that was fetched has been reported once, each by
a runner of its own. -/
structure Concluded (deeds : List (Deed TaskMessage)) (crew : Crew) : Prop where
  hand_empty : crew.loop.held? = none
  reported : ∀ runner ∈ crew.runners, runner.stage = .reported
  accounted : (deeds.filterMap Deed.fetched?).Perm
    ((deeds.filterMap Deed.reported?).map Assignment.message)
  once : (deeds.filterMap Deed.reported?).Nodup

structure Crew.Calm (crew : Crew) : Prop where
  hand_empty : crew.loop.held? = none
  ended : ∀ runner ∈ crew.runners, runner.stage.hasEnded = true

theorem calm_of_nothing_owned {crew : Crew} (nothing : crew.owned = 0) : crew.Calm := by
  have few := congrArg Multiset.card nothing
  rw [Crew.owned, Multiset.card_add, ids_of_card, ids_of_card, Multiset.card_zero] at few
  obtain ⟨noMessage, noWork⟩ := Nat.add_eq_zero_iff.mp few
  constructor
  · cases held : crew.loop.held? with
    | none => rfl
    | some message => simp [held] at noMessage
  · have noneAtWork : crew.atWork = [] := List.eq_nil_of_length_eq_zero noWork
    have noneUnended := List.map_eq_nil_iff.mp noneAtWork
    intro runner member
    simpa using List.filter_eq_nil_iff.mp noneUnended runner member

theorem calm_when_drained (bounded : policy.Bounded)
    (created : Processor.new? config (policy.reconcile MemoryQueue.backend) = some processor)
    (course : Course (MemoryQueue.setting handler) index
      { processor := processor, shared := shared } deeds service)
    (started : service.processor.state ≠ .created)
    (drained : service.shared.backend.store.Drained) : service.processor.crew.Calm := by
  have owned := (course_tracked bounded created course).2.owned started
  rw [drained.none_in_progress, ids_of_nil] at owned
  exact calm_of_nothing_owned owned.symm

theorem concluded_when_calm
    (created : Processor.new? config (policy.reconcile MemoryQueue.backend) = some processor)
    (course : Course (MemoryQueue.setting handler) index
      { processor := processor, shared := shared } deeds service)
    (calm : service.processor.crew.Calm) (uncrashed : service.processor.crew.Uncrashed) :
    Concluded deeds service.processor.crew := by
  have recorded := (course_recorded created course).2
  constructor
  · exact calm.hand_empty
  · intro runner member
    have finished := calm.ended runner member
    have well := uncrashed runner member
    cases stage : runner.stage <;> simp_all [RunnerStage.hasEnded]
  · have allSettled : service.processor.crew.settled =
        service.processor.crew.runners.map Runner.assignment := by
      rw [Crew.settled, List.filter_eq_self.mpr calm.ended]
    have fetched := recorded.fetched
    rw [calm.hand_empty, Option.toList_none, List.append_nil] at fetched
    have reported := recorded.reported
    rw [allSettled] at reported
    rw [fetched]
    exact (recorded.assigned.trans reported.symm).map Assignment.message
  · exact reported_nodup created course

end Conclusion

section Idling

/-- The act brings no work: nothing is made pending again, and no fetch brings a message. -/
inductive Act.Fruitless : Act → Prop where
  | restored : Fruitless (.restored (.ok 0))
  | fetchBegun : Fruitless .fetchBegun
  | fetchEnded : Fruitless (.fetchEnded (.ok none))

/-- What a processor does without work: the tasks stay where they are, nobody gets a message, and
only the fetch of its own loop may change. -/
structure Idling (index : Nat) (crew : Crew) (queue : MemoryQueue Party) (act : Option Act)
    (next : Crew) (later : MemoryQueue Party) : Prop where
  store : later.store = queue.store
  fruitless : ∀ made, act = some made → made.Fruitless
  calm : next.Calm
  engaged : Engaged index crew.loop queue → Engaged index next.loop later
  elsewhere : ∀ other, other ≠ index →
    later.fetchOf? (.loop other) = queue.fetchOf? (.loop other)

variable {η : Type} {handler : Handler η} {index : Nat} {crew next : Crew}
  {queue later : MemoryQueue Party} {act : Option Act} {now : Moment}

theorem idling_without_act (calm : next.Calm) (loop : next.loop = crew.loop) :
    Idling index crew queue none next queue where
  store := rfl
  fruitless := by simp
  calm := calm
  engaged := by
    intro engaged
    rw [loop]
    exact engaged
  elsewhere := fun _ _ => rfl

theorem loop_move_idling {timeout : Duration} {cause : WakeCause}
    (move : LoopMove MemoryQueue.backend index timeout cause now crew queue act next later)
    (drained : queue.store.Drained) (calm : crew.Calm) :
    Idling index crew queue act next later := by
  have step := move.step
  have engaged := loop_step_engaged step
  have elsewhere (other : Nat) (differs : other ≠ index) :
      later.fetchOf? (.loop other) = queue.fetchOf? (.loop other) :=
    loop_step_elsewhere step differs
  cases move with
  | stopped => exact ⟨rfl, by simp, ⟨rfl, calm.ended⟩, engaged, elsewhere⟩
  | overdue =>
      exact ⟨rfl, by simp [Act.Fruitless.fetchBegun], ⟨rfl, calm.ended⟩, engaged, elsewhere⟩
  | begun _ _ fetch =>
      have store := store_after_start_fetch fetch
      exact ⟨store, by simp [Act.Fruitless.fetchBegun], ⟨rfl, calm.ended⟩, engaged, elsewhere⟩
  | waiting _ fetch =>
      have store := (MemoryQueue.fetch_step_of_drained drained fetch).1
      exact ⟨store, by simp, calm, engaged, elsewhere⟩
  | answered _ fetch =>
      obtain ⟨store, moved | returned⟩ := MemoryQueue.fetch_step_of_drained drained fetch
      · cases moved
      · cases returned
        exact ⟨store, by simp [Act.Fruitless.fetchEnded], ⟨rfl, calm.ended⟩, engaged, elsewhere⟩
  | admitted holding | queued holding | resumed holding =>
      have held := calm.hand_empty
      rw [holding] at held
      cases held

/-- Of runners that have all ended, none can do more than give back its slot. -/
theorem runner_move_idling {plant : Plant (MemoryQueue Party) η}
    {failure : FailureHandler Party (MemoryQueue Party)} {ticket draw : Nat}
    {handlers called : η}
    (move : RunnerMove plant failure ticket draw now crew queue handlers act next later called)
    (calm : crew.Calm) : Idling index crew queue act next later := by
  have finished {runner : Runner} (found : crew.runnerOf? ticket = some runner) :
      runner.stage.hasEnded = true := calm.ended runner (Crew.mem_of_found found)
  cases move with
  | called found stage | handled found stage | completed found stage | failed found stage =>
      have ended := finished found
      rw [stage] at ended
      cases ended
  | retired =>
      refine idling_without_act ⟨calm.hand_empty, ?_⟩ rfl
      intro runner member
      exact calm.ended runner (List.mem_of_mem_filter member)

theorem service_move_idling {processor after : Processor (MemoryQueue Party)}
    {handlers called : η} {move : Move TaskMessage}
    (moved : ServiceMove (MemoryQueue.setting handler) index processor queue handlers move act
      after later called)
    (own : ∀ message, move ≠ .outside message) (sound : processor.Sound index)
    (drained : queue.store.Drained) (calm : processor.crew.Calm) :
    Idling index processor.crew queue act after.crew later := by
  obtain ⟨nothing, unchanged⟩ := MemoryQueue.restore_of_drained drained
  cases moved with
  | startRefused | terminationRefused | keptOn => exact idling_without_act calm rfl
  | startPanicked _ panicked =>
      simp [MemoryQueue.setting, MemoryQueue.backend, Reply.hasPanicked, nothing] at panicked
  | started created =>
      have idle := (sound.inPhase.unstarted created).1
      change Idling index processor.crew queue (some (.restored queue.restore.answer)) _
        queue.restore.state
      rw [nothing, unchanged]
      refine ⟨rfl, by simp [Act.Fruitless.restored], ⟨rfl, calm.ended⟩, ?_, fun _ _ => rfl⟩
      exact fun engaged => engaged.still_apart (by simp [idle]) (by simp)
  | dispatched move => exact loop_move_idling move drained calm
  | executed move => exact runner_move_idling move calm
  | terminating | dropped => exact idling_without_act ⟨calm.hand_empty, calm.ended⟩ rfl
  | closed step => cases step <;> exact idling_without_act ⟨calm.hand_empty, calm.ended⟩ rfl
  | acted message => exact absurd rfl (own message)

end Idling

section Fleets

variable {η : Type} {store : Store} {origin fleet : Fleet η} {events : List FleetEvent}

/-- The queue of a fleet has a store, the members have no work, and each fetches exactly while its
loop does. -/
structure Fleet.AtEase (store : Store) (fleet : Fleet η) : Prop where
  store : fleet.shared.backend.store = store
  workless : ∀ (index : Nat) (member : Processor (MemoryQueue Party)),
    fleet.members[index]? = some member → member.Sound index ∧ member.crew.Calm
  engaged : ∀ index, Engaged index (fleet.loopOf index) fleet.shared.backend

theorem at_ease_after_join (ease : fleet.AtEase store) {config : ProcessorConfig}
    {failure : FailureHandler Party (MemoryQueue Party)}
    {processor : Processor (MemoryQueue Party)}
    (created : Processor.new? config failure = some processor) :
    (fleet.join processor).AtEase store := by
  obtain ⟨new, _, _⟩ := Processor.new_processor_settings created
  have sound (index : Nat) : processor.Sound index := Processor.new_processor_sound created
  obtain ⟨idle, alone, _⟩ := (sound 0).inPhase.unstarted new
  have calm : processor.crew.Calm := by
    constructor
    · rw [idle]
      rfl
    · simp [alone]
  refine ⟨ease.store, ?_, ?_⟩
  · exact Fleet.members_after_join ease.workless fun index => ⟨sound index, calm⟩
  · intro index
    rw [Fleet.loop_after_join fleet idle]
    exact ease.engaged index

theorem at_ease_after_move (drained : store.Drained) (ease : fleet.AtEase store)
    {handler : Handler η} {index : Nat} {member : Processor (MemoryQueue Party)}
    {move : Move TaskMessage} {later : Service (MemoryQueue Party) η}
    (found : fleet.members[index]? = some member)
    (moved : (fleet.service member).after? (MemoryQueue.setting handler) index move = some later)
    (own : ∀ message, move ≠ .outside message) :
    (fleet.advance index later).AtEase store ∧
      ∀ act, (fleet.service member).act? (MemoryQueue.setting handler) index move = some act →
        act.Fruitless := by
  obtain ⟨sound, calm⟩ := ease.workless index member found
  have nothing : fleet.shared.backend.store.Drained := by
    rw [ease.store]
    exact drained
  have moves := service_move_cases moved
  have idling := service_move_idling moves own sound nothing calm
  have laterSound := Processor.service_step_sound (service_step_cases moved) sound
  refine ⟨⟨idling.store.trans ease.store, ?_, ?_⟩, idling.fruitless⟩
  · exact Fleet.members_after_move ease.workless ⟨laterSound, idling.calm⟩
  · intro other
    -- only the fetch of the loop that moved can have changed
    by_cases same : other = index
    · subst same
      rw [Fleet.loop_after_own_move found]
      have engaged := ease.engaged other
      rw [Fleet.loop_of_member found] at engaged
      exact idling.engaged engaged
    · rw [Fleet.loop_after_other_move fleet same]
      exact (ease.engaged other).of_same_fetch (idling.elsewhere other same)

/-- As long as no message is added, a fleet without work gets none. -/
theorem at_ease_along (drained : store.Drained) (ease : origin.AtEase store)
    (voyage : Fleet.Voyage origin events fleet)
    (unfed : ∀ event ∈ events, event.isEnqueue = false) :
    fleet.AtEase store ∧ ∀ act ∈ events.filterMap FleetEvent.act?, act.Fruitless := by
  induction voyage with
  | begin => exact ⟨ease, by simp⟩
  | join voyage created ih =>
      obtain ⟨before, fruitless⟩ := ih fun event member =>
        unfed event (List.mem_append_left _ member)
      refine ⟨at_ease_after_join before created, ?_⟩
      simpa [FleetEvent.act?] using fruitless
  | move voyage handler found move moved ih =>
      obtain ⟨before, fruitless⟩ := ih fun event member =>
        unfed event (List.mem_append_left _ member)
      have own (message : TaskMessage) : move ≠ .outside message := by
        rintro rfl
        have fed := unfed _ (List.mem_append_right _ List.mem_cons_self)
        simp [FleetEvent.isEnqueue] at fed
      obtain ⟨after, made⟩ := at_ease_after_move drained before found moved own
      refine ⟨after, ?_⟩
      intro act member
      rw [List.filterMap_append] at member
      rcases List.mem_append.mp member with earlier | last
      · exact fruitless act earlier
      · obtain ⟨event, single, ownAct⟩ := List.mem_filterMap.mp last
        obtain rfl := List.mem_singleton.mp single
        exact made act ownAct

end Fleets

section Deadlines

variable {η : Type} {handler : Handler η} {index within more : Nat} {now : Moment}
  {service : Service (MemoryQueue Party) η} {fetch : Fetch Party} {wakeAt : Nat}

/-- With at most so many steps of the loop at a moment its fetch ends with nothing. -/
def EndsEmpty (handler : Handler η) (index : Nat) (now : Moment) (within : Nat)
    (service : Service (MemoryQueue Party) η) : Prop :=
  ∃ steps last, Passage (MemoryQueue.setting handler) index service steps last ∧
    steps.length ≤ within ∧ (∀ step ∈ steps, step.move = .loop .timer now) ∧
    actsOf (MemoryQueue.setting handler) index steps = [.fetchEnded (.ok none)] ∧
    last.processor.crew.loop = .checking

theorem EndsEmpty.mono (ends : EndsEmpty handler index now within service)
    (fewer : within ≤ more) : EndsEmpty handler index now more service := by
  obtain ⟨steps, last, passage, few, rest⟩ := ends
  exact ⟨steps, last, passage, le_trans few fewer, rest⟩

/-- A step of the fetch is a step of the loop. -/
theorem loop_follows_fetch (fetching : service.processor.crew.loop = .fetching)
    {next : MemoryQueue Party} {woken : List Party}
    (advanced : service.shared.backend.advanceFetch .timer (.loop index) now =
      some (next, .moved, woken))
    (ends : ∀ later : Service (MemoryQueue Party) η, later.processor.crew.loop = .fetching →
      later.shared.backend = next → EndsEmpty handler index now within later) :
    EndsEmpty handler index now (within + 1) service := by
  obtain ⟨later, moved, loop, backend⟩ : ∃ later,
      service.after? (MemoryQueue.setting handler) index (.loop .timer now) = some later ∧
        later.processor.crew.loop = .fetching ∧ later.shared.backend = next := by
    simp [Service.after?, Crew.advanceLoop, fetching, MemoryQueue.setting, MemoryQueue.backend,
      advanced, Shared.wake]
  have unseen :
      service.act? (MemoryQueue.setting handler) index (.loop .timer now) = none := by
    simp [Service.act?, Crew.loopAct?, fetching, MemoryQueue.setting, MemoryQueue.backend,
      advanced]
  obtain ⟨steps, last, passage, few, moves, acts, checking⟩ := ends later loop backend
  refine ⟨_, last, passage_trans (.next .begin _ moved) passage, ?_, ?_, ?_, checking⟩
  · simp only [List.nil_append, List.length_append, List.length_singleton]
    omega
  · intro step member
    rcases List.mem_append.mp member with first | behind
    · rw [List.mem_singleton.mp first]
    · exact moves step behind
  · simpa [actsOf, Transition.act?, unseen] using acts

theorem ends_after_look (fetching : service.processor.crew.loop = .fetching)
    (found : service.shared.backend.fetchOf? (.loop index) = some fetch)
    {nextRetry : Option Timestamp} (looked : fetch.stage = .looked nextRetry)
    (past : fetch.deadline ≤ now.clock) : EndsEmpty handler index now 1 service := by
  obtain ⟨next, ended⟩ : ∃ next, service.shared.backend.advanceFetch .timer (.loop index) now =
      some (next, .returned (.ok none), []) := MemoryQueue.overdue_after_look found looked past
  obtain ⟨later, moved, checking⟩ : ∃ later,
      service.after? (MemoryQueue.setting handler) index (.loop .timer now) = some later ∧
        later.processor.crew.loop = .checking := by
    simp [Service.after?, Crew.advanceLoop, fetching, MemoryQueue.setting, MemoryQueue.backend,
      ended, Crew.receive]
  have emptyHanded : service.act? (MemoryQueue.setting handler) index (.loop .timer now) =
      some (.fetchEnded (.ok none)) := by
    simp [Service.act?, Crew.loopAct?, fetching, MemoryQueue.setting, MemoryQueue.backend, ended]
  refine ⟨_, later, .next .begin _ moved, le_refl 1, ?_, ?_, checking⟩
  · intro step member
    rw [List.mem_singleton.mp member]
  · simp [actsOf, Transition.act?, emptyHanded]

theorem ends_when_looking (drained : service.shared.backend.store.Drained)
    (fetching : service.processor.crew.loop = .fetching)
    (found : service.shared.backend.fetchOf? (.loop index) = some fetch)
    (looking : fetch.stage = .looking) (past : fetch.deadline ≤ now.clock) :
    EndsEmpty handler index now 2 service := by
  obtain ⟨next, nextRetry, advanced, kept⟩ := MemoryQueue.looked_in_vain drained found looking
  refine loop_follows_fetch fetching advanced fun later loop backend => ?_
  rw [← backend] at kept
  exact ends_after_look loop kept rfl past

theorem ends_when_asleep (drained : service.shared.backend.store.Drained)
    (fetching : service.processor.crew.loop = .fetching)
    (found : service.shared.backend.fetchOf? (.loop index) = some fetch)
    (asleep : fetch.stage = .asleep wakeAt) (awake : wakeAt ≤ now.clock)
    (past : fetch.deadline ≤ now.clock) : EndsEmpty handler index now 3 service := by
  obtain ⟨next, woken, advanced, kept, store⟩ := MemoryQueue.woken_by_timer found asleep awake
  refine loop_follows_fetch fetching advanced fun later loop backend => ?_
  rw [← backend] at kept store
  rw [← store] at drained
  exact ends_when_looking drained loop kept rfl past

/-- Where there is nothing to fetch, a punctual fetch ends with nothing once its deadline has
come. -/
theorem ends_at_deadline (drained : service.shared.backend.store.Drained)
    (fetching : service.processor.crew.loop = .fetching)
    (found : service.shared.backend.fetchOf? (.loop index) = some fetch)
    (punctual : fetch.Punctual) (past : fetch.deadline ≤ now.clock) :
    EndsEmpty handler index now 3 service := by
  -- asleep, about to look, after a look: three, two and one steps from the end
  cases stage : fetch.stage with
  | looking => exact (ends_when_looking drained fetching found stage past).mono (by omega)
  | looked nextRetry => exact (ends_after_look fetching found stage past).mono (by omega)
  | asleep wakeAt =>
      have awake := le_trans (punctual wakeAt stage) past
      exact ends_when_asleep drained fetching found stage awake past

end Deadlines

section Finish

variable {η : Type} {handler : Handler η} {policy : RetryPolicy} {config : ProcessorConfig}
  {processor : Processor (MemoryQueue Party)} {shared : Shared (MemoryQueue Party) η}
  {deeds : List (Deed TaskMessage)} {service : Service (MemoryQueue Party) η}

/-- The processor of a course is at ease once nothing is left to do. -/
theorem at_ease_when_calm (sound : service.processor.Sound 0) (calm : service.processor.crew.Calm)
    (unfailing : Unfailing 0 service.processor service.shared.backend) :
    (Fleet.solo service).AtEase service.shared.backend.store := by
  refine ⟨rfl, ?_, ?_⟩
  · intro index member found
    obtain ⟨rfl, rfl⟩ : index = 0 ∧ service.processor = member := by
      simpa [Fleet.solo, List.getElem?_singleton] using found
    exact ⟨sound, calm⟩
  · intro index
    by_cases first : index = 0
    · subst first
      exact unfailing.engaged
    · have outside : (Fleet.solo service).loopOf index = .idle := by
        simp [Fleet.loopOf, Fleet.solo, first]
      rw [outside]
      exact ⟨by simp, fun _ => unfailing.alone index first⟩

/-- One processor works on a queue in memory from which nobody else fetches, and a retry policy
decides about failures. Whenever the counts are settled after its start, its loop has no message in
hand and its runners have reported on all that was fetched. From then on, until a message is added,
the queue keeps its tasks as they are, no handler is called and no fetch brings a message, whatever
this processor and others that join it do; and every fetch under way ends with nothing once its
deadline has come. A fetch whose deadline is beyond the clock does not get under way, it ends its
loop. -/
theorem settled_is_finished (handler : Handler η) (bounded : policy.Bounded)
    (created : Processor.new? config (policy.reconcile MemoryQueue.backend) = some processor)
    (unused : shared.backend.fetches = [])
    (course : Course (MemoryQueue.setting handler) 0 { processor := processor, shared := shared }
      deeds service)
    (started : service.processor.state ≠ .created)
    (settled : service.shared.backend.store.counts.isSettled = true) :
    Concluded deeds service.processor.crew ∧
      ∀ (events : List FleetEvent) (fleet : Fleet η),
        Fleet.Voyage (Fleet.solo service) events fleet →
        (∀ event ∈ events, event.isEnqueue = false) →
          fleet.shared.backend.store = service.shared.backend.store ∧
          (∀ act ∈ events.filterMap FleetEvent.act?, act.Fruitless) ∧
          ∀ (index : Nat) (member : Processor (MemoryQueue Party)),
            fleet.members[index]? = some member → member.crew.loop = .fetching →
              ∃ fetch, fleet.shared.backend.fetchOf? (.loop index) = some fetch ∧
                ∀ (handler : Handler η) (now : Moment), fetch.deadline ≤ now.clock →
                  EndsEmpty handler index now 3 (fleet.service member) := by
  have drained := (Store.drained_iff_settled _).mp settled
  have sound := (course_tracked bounded created course).1
  have unfailing := course_unfailing bounded created unused course
  have calm := calm_when_drained bounded created course started drained
  refine ⟨concluded_when_calm created course calm unfailing.uncrashed, ?_⟩
  intro events fleet voyage unfed
  obtain ⟨ease, fruitless⟩ :=
    at_ease_along drained (at_ease_when_calm sound calm unfailing) voyage unfed
  refine ⟨ease.store, fruitless, ?_⟩
  intro index member found fetching
  have engaged := ease.engaged index
  rw [Fleet.loop_of_member found] at engaged
  obtain ⟨fetch, underWay, punctual⟩ := engaged.fetching fetching
  refine ⟨fetch, underWay, fun handler now past => ?_⟩
  have nothing : fleet.shared.backend.store.Drained := by
    rw [ease.store]
    exact drained
  exact ends_at_deadline nothing fetching underWay punctual past

end Finish

namespace Rehearsal

def conclusion : List (Move TaskMessage) := [.runner 0 0 now, .runner 0 0 now]

/-- When the fetch of a loop that began at first is overdue. -/
def afterwards : Moment := ⟨10000000000, .epoch⟩

def reinforcement : List FleetEvent :=
  [.joined, .moved 1 (.start now) (some (.restored (.ok 0))),
    .moved 1 (.loop .told now) (some .fetchBegun)]

end Rehearsal

open Rehearsal in
theorem rehearsal_is_finished :
    ∃ service fleet member,
      Service.run (MemoryQueue.setting handler) 0 (opening ++ conclusion)
          { processor := processor, shared := shared } =
        some ([.outside message, .fetched message, .assigned assignment, .reported assignment],
          service) ∧
      service.shared.backend.store.counts.isSettled = true ∧
      Concluded [.outside message, .fetched message, .assigned assignment, .reported assignment]
        service.processor.crew ∧
      Fleet.Voyage (Fleet.solo service) reinforcement fleet ∧
      fleet.shared.backend.store = service.shared.backend.store ∧
      fleet.members[1]? = some member ∧ member.crew.loop = .fetching ∧
      EndsEmpty handler 1 afterwards 3 (fleet.service member) := by
  have ran : ∃ service started begun,
      Service.run (MemoryQueue.setting handler) 0 (opening ++ conclusion)
          { processor := processor, shared := shared } =
        some ([.outside message, .fetched message, .assigned assignment, .reported assignment],
          service) ∧
      service.processor.state = .running ∧
      service.shared.backend.store.counts.isSettled = true ∧
      (((Fleet.solo service).join processor).service processor).after?
        (MemoryQueue.setting handler) 1 (.start now) = some started ∧
      (((Fleet.solo service).join processor).service processor).act?
        (MemoryQueue.setting handler) 1 (.start now) = some (.restored (.ok 0)) ∧
      started.after? (MemoryQueue.setting handler) 1 (.loop .told now) = some begun ∧
      started.act? (MemoryQueue.setting handler) 1 (.loop .told now) = some .fetchBegun ∧
      begun.processor.crew.loop = .fetching ∧
      begun.shared.backend.fetches = [⟨.loop 1, 5000000000, .looking⟩] :=
    ⟨_, _, _, rfl, rfl, rfl, rfl, rfl, rfl, rfl, rfl, rfl⟩
  obtain ⟨service, started, begun, ran, running, settled, start, restored, loop, fetchBegun,
    fetching, fetches⟩ := ran
  let joined := (Fleet.solo service).join processor
  let fleet := (joined.advance 1 started).advance 1 begun
  have member : (joined.advance 1 started).members[1]? = some started.processor := rfl
  have found : fleet.members[1]? = some begun.processor := rfl
  have underWay : fleet.shared.backend.fetches = [⟨.loop 1, 5000000000, .looking⟩] := fetches
  have arrival : Fleet.Voyage (Fleet.solo service)
      [.joined, .moved 1 (.start now) (some (.restored (.ok 0)))] (joined.advance 1 started) := by
    rw [← restored]
    exact (Fleet.Voyage.begin.join created).move handler rfl (.start now) start
  have voyage : Fleet.Voyage (Fleet.solo service) reinforcement fleet := by
    rw [reinforcement, ← fetchBegun]
    exact arrival.move handler member (.loop .told now) loop
  have bounded : RetryPolicy.default.Bounded := by decide
  obtain ⟨concluded, finished⟩ := settled_is_finished handler bounded created rfl
    (course_of_run ran) (by simp [running]) settled
  obtain ⟨store, _, ends⟩ := finished reinforcement fleet voyage (by decide)
  obtain ⟨fetch, own, empty⟩ := ends 1 begun.processor found fetching
  have deadline : fetch.deadline = 5000000000 := by
    rw [MemoryQueue.fetchOf?, underWay] at own
    cases own
    rfl
  have past : fetch.deadline ≤ afterwards.clock := by
    rw [deadline]
    decide
  exact
    ⟨service, fleet, begun.processor, ran, settled, concluded, voyage, store, found, fetching,
      empty handler afterwards past⟩

end TaskDispatch
