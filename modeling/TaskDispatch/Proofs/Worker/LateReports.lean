import TaskDispatch.Proofs.Queue.Schedule
import TaskDispatch.Proofs.Worker.Standing

/-!
# Reports that come late

A runner goes on after its processor has been dropped, and others may have restored and begun its
task again when it reports. The queue knows entries by identifiers only. So a report is refused if
nothing under its identifier is in progress, and otherwise it takes the entry of the attempt that was
begun last, be it its own or not. The count of retries in the store falls only when a retry for an
earlier attempt is accepted in this way: `late_reports_meet_the_last_attempt`.
-/

namespace TaskDispatch

set_option autoImplicit false

/-- What the report for an attempt comes to. Without an entry of its task in progress it is refused
and changes nothing. Otherwise it takes the entry of the attempt that stands for the task, which is
another one if something was restored since its own attempt was begun. -/
structure ReportCall.Meets (marks : List Mark) (own : Attempt) (queue : MemoryQueue Party)
    (call : ReportCall) : Prop where
  same_task : call.message.id = own.message.id
  overtaken : restoredSince own marks = true → standing? own.message.id marks ≠ some own
  vacant : standing? own.message.id marks = none → ¬ queue.store.Holds own.message.id
  refused : ¬ queue.store.Holds own.message.id →
    (queue.report call.message call.report).answer =
        .error (.refused (.notFound own.message.id)) ∧
      (queue.report call.message call.report).state = queue
  accepted : queue.store.Holds own.message.id →
    (queue.report call.message call.report).answer = .ok () ∧
      ∃ (last : Attempt) (others : List TaskMessage),
        standing? own.message.id marks = some last ∧ restoredSince last marks = false ∧
          queue.store.inProgress.Perm (last.message :: others) ∧
          (queue.report call.message call.report).state.store =
            ({ queue.store with inProgress := others } : Store).file call.message call.report

/-- In a move of a processor a runner has the task with an identifier retried, though another
attempt stands for it and has its entry in progress. -/
inductive LateRetry (id : TaskId) (marks : List Mark) (index : Nat)
    (member : Processor (MemoryQueue Party)) (queue : MemoryQueue Party) :
    Move TaskMessage → Prop where
  | taken {policy : RetryPolicy} {ticket draw : Nat} {now : Moment} {runner : Runner}
      {error : TaskError} {retryAt : Timestamp} {last : Attempt}
      (failure : member.failure = policy.reconcile MemoryQueue.backend)
      (found : member.crew.runnerOf? ticket = some runner)
      (reporting : runner.stage = .reporting (.error error)) (own : runner.message.id = id)
      (decided : policy.decision? runner.message now draw = some (.retry retryAt))
      (standing : standing? id marks = some last)
      (present : last.message ∈ queue.store.inProgress)
      (other : last ≠ ⟨index, ticket, runner.message⟩) :
      LateRetry id marks index member queue (.runner ticket draw now)

section Reports

variable {issued : Multiset TaskMessage} {marks : List Mark} {own : Attempt}
  {queue : MemoryQueue Party} {policy : RetryPolicy} {now : Moment} {draw : Nat}
  {result : Except TaskError Unit} {call : ReportCall}

theorem report_meets (assigned : Assigned issued marks queue.store)
    (made : policy.call? own.message now draw result = some call) :
    call.Meets marks own queue := by
  have same := RetryPolicy.call_id made
  constructor
  case same_task => exact same
  case overtaken =>
    intro restored standing
    rw [(standing_cases standing).2.2] at restored
    cases restored
  case vacant =>
    rintro nobody ⟨entry, member, id⟩
    obtain ⟨attempt, standing, -⟩ := assigned.entries entry member
    rw [id, nobody] at standing
    cases standing
  case refused =>
    intro absent
    rw [← same] at absent ⊢
    exact queue.report_refused call.message call.report absent
  case accepted =>
    intro present
    rw [← same] at present ⊢
    obtain ⟨answer, found, others, id, taken, filed⟩ :=
      queue.report_accepted call.message call.report present
    obtain ⟨last, standing, entry⟩ :=
      assigned.entries found (taken.mem_iff.mpr List.mem_cons_self)
    rw [id] at standing
    rw [← entry] at taken
    exact ⟨answer, last, others, standing, (standing_cases standing).2.2, taken, filed⟩

/-- A report that is no retry for an earlier attempt leaves no message with a lower count. -/
theorem retried_after_report (own : Attempt) (assigned : Assigned issued marks queue.store)
    (distinct : (issued.map TaskMessage.id).Nodup) (begun : .fetched own ∈ marks)
    (made : policy.call? own.message now draw result = some call)
    {before after : TaskMessage} (stored : before ∈ queue.store.messages)
    (left : after ∈ (queue.report call.message call.report).state.store.messages)
    (same : before.id = after.id)
    (timely : ∀ last retryAt, call.report = .retry retryAt → own.message.id = before.id →
      standing? before.id marks = some last →
        last.message ∈ queue.store.inProgress → last = own) :
    before.retried.toNat ≤ after.retried.toNat := by
  have apart : queue.store.ids.Nodup := Multiset.nodup_of_le assigned.known distinct
  obtain kept | ⟨rfl, kind, found, inProgress, foundId⟩ := MemoryQueue.stored_before_report left
  · rw [Store.same_of_id apart stored kept same]
  · have id := foundId.trans (RetryPolicy.call_id made)
    have member := Store.mem_messages_of_in_progress inProgress
    obtain rfl := Store.same_of_id apart stored member (same.trans foundId.symm)
    obtain ⟨last, standing, entry⟩ := assigned.entries before inProgress
    rcases kind with ⟨retryAt, retry⟩ | killed
    · have ownEntry : last = own :=
        timely last retryAt retry id.symm standing (entry ▸ inProgress)
      rw [← entry, ownEntry]
      exact RetryPolicy.call_retried_le made
    · have ceiling : before.ceiling = own.message.ceiling :=
        (assigned.stored before stored).same_ceiling distinct (assigned.begun own begun) id
      rw [RetryPolicy.killed_at_ceiling made killed, ← ceiling]
      exact before.retried_le_ceiling

/-- The move of a runner that has its report to make is possible, and does to the queue what the
report does. -/
theorem report_move {η : Type} (service : Service (MemoryQueue Party) η) {ticket : Nat}
    {runner : Runner}
    (failure : service.processor.failure = policy.reconcile MemoryQueue.backend)
    (found : service.processor.crew.runnerOf? ticket = some runner)
    (reporting : runner.stage = .reporting result) (handler : Handler η) (index draw : Nat)
    (now : Moment) :
    ∃ later, service.after? (MemoryQueue.setting handler) index (.runner ticket draw now) =
        some later ∧
      later.shared.backend =
        service.shared.backend.afterCall (policy.call? runner.message now draw result) := by
  obtain ⟨crew, shared, advanced⟩ := report_step_taken found reporting
    (MemoryQueue.setting handler).plant service.processor.failure draw now service.shared
  have move := runner_move_cases advanced
  rw [failure] at move
  refine ⟨{ processor := { service.processor with crew := crew }, shared := shared }, ?_, ?_⟩
  · simp only [Service.after?, advanced, Option.map_some]
  · exact queue_after_report_move move found reporting

end Reports

section Moves

variable {issued : Multiset TaskMessage} {marks : List Mark} {index : Nat} {policy : RetryPolicy}
  {member : Processor (MemoryQueue Party)} {queue next : MemoryQueue Party}
  {move : Move TaskMessage} {act : Option Act}

/-- Who is in the store after a move was there before, unless the move has added it. -/
theorem stored_before_move (step : TaskMove index policy member.crew queue move act next)
    {after : TaskMessage} (left : after ∈ next.store.messages) :
    move.action? = some after ∨ ∃ before ∈ queue.store.messages, before.id = after.id := by
  cases step with
  | still _ _ _ messages | fetched _ _ _ messages | restored _ _ messages =>
      exact .inr ⟨after, messages ▸ left, rfl⟩
  | enqueued message =>
      have enqueued : after ∈ (queue.store.enqueue message).messages := left
      rw [Store.messages_after_enqueue] at enqueued
      rcases Multiset.mem_cons.mp enqueued with rfl | old
      · exact .inl rfl
      · exact .inr ⟨after, old, rfl⟩
  | @reported ticket draw now _ runner result _ found reporting =>
      right
      cases made : policy.call? runner.message now draw result with
      | none =>
          rw [made] at left
          exact ⟨after, left, rfl⟩
      | some call =>
          rw [made] at left
          obtain kept | ⟨rfl, -, entry, inProgress, same⟩ :=
            MemoryQueue.stored_before_report left
          · exact ⟨after, kept, rfl⟩
          · exact ⟨entry, Store.mem_messages_of_in_progress inProgress, same⟩

/-- A move without a late retry of a task leaves it with no lower count. -/
theorem retried_after_move (step : TaskMove index policy member.crew queue move act next)
    (failure : member.failure = policy.reconcile MemoryQueue.backend)
    (carried : ∀ attempt ∈ member.crew.attempts index, .fetched attempt ∈ marks)
    (assigned : Assigned issued marks queue.store)
    (distinct : ((issued + ↑move.action?.toList).map TaskMessage.id).Nodup)
    {before after : TaskMessage} (timely : ¬ LateRetry before.id marks index member queue move)
    (stored : before ∈ queue.store.messages) (left : after ∈ next.store.messages)
    (same : before.id = after.id) : before.retried.toNat ≤ after.retried.toNat := by
  have old : (issued.map TaskMessage.id).Nodup :=
    Multiset.nodup_of_le (Multiset.map_le_map (Multiset.le_add_right _ _)) distinct
  have kept (member : after ∈ queue.store.messages) :
      before.retried.toNat ≤ after.retried.toNat := by
    have apart : queue.store.ids.Nodup := Multiset.nodup_of_le assigned.known old
    rw [Store.same_of_id apart stored member same]
  cases step with
  | still _ _ _ messages | fetched _ _ _ messages | restored _ _ messages =>
      exact kept (messages ▸ left)
  | enqueued message =>
      have enqueued : after ∈ (queue.store.enqueue message).messages := left
      rw [Store.messages_after_enqueue] at enqueued
      rcases Multiset.mem_cons.mp enqueued with rfl | member
      · exact absurd same ((assigned.stored before stored).apart distinct)
      · exact kept member
  | @reported ticket draw now _ runner result _ found reporting =>
      cases made : policy.call? runner.message now draw result with
      | none =>
          rw [made] at left
          exact kept left
      | some call =>
          rw [made] at left
          refine retried_after_report ⟨index, ticket, runner.message⟩ assigned old
            (carried _ (Crew.attempt_of_found found index)) made stored left same ?_
          intro last retryAt retry id standing present
          by_contra other
          obtain ⟨error, rfl, decided⟩ := RetryPolicy.retry_decided made retry
          exact timely (.taken failure found reporting id decided standing present other)

end Moves

namespace Fleet

variable {η : Type} {origin start fleet : Fleet η} {past events : List FleetEvent} {id : TaskId}

/-- How a voyage goes on without a late retry of the task with an identifier. -/
inductive Timely (id : TaskId) (past : List FleetEvent) (start : Fleet η) :
    List FleetEvent → Fleet η → Prop where
  | begin : Timely id past start [] start
  | join {events : List FleetEvent} {fleet : Fleet η} {config : ProcessorConfig}
      {failure : FailureHandler Party (MemoryQueue Party)}
      {processor : Processor (MemoryQueue Party)} (before : Timely id past start events fleet)
      (created : Processor.new? config failure = some processor) :
      Timely id past start (events ++ [.joined]) (fleet.join processor)
  | move {events : List FleetEvent} {fleet : Fleet η} {index : Nat}
      {member : Processor (MemoryQueue Party)} {later : Service (MemoryQueue Party) η}
      (before : Timely id past start events fleet) (handler : Handler η)
      (found : fleet.members[index]? = some member) (move : Move TaskMessage)
      (moved : (fleet.service member).after? (MemoryQueue.setting handler) index move =
        some later)
      (timely : ¬ LateRetry id (marksOf (past ++ events)) index member fleet.shared.backend
        move) :
      Timely id past start
        (events ++
          [.moved index move
            ((fleet.service member).act? (MemoryQueue.setting handler) index move)])
        (fleet.advance index later)

theorem Timely.voyage (timely : Timely id past start events fleet)
    (voyage : Voyage origin past start) : Voyage origin (past ++ events) fleet := by
  induction timely with
  | begin =>
    rw [List.append_nil]
    exact voyage
  | join _ created ih =>
    rw [← List.append_assoc]
    exact ih.join created
  | move _ handler found move moved _ ih =>
    rw [← List.append_assoc]
    exact ih.move handler found move moved

theorem Timely.retried_le (timely : Timely id past start events fleet)
    (voyage : Voyage origin past start) (alone : origin.members = [])
    (idle : origin.shared.backend.store.inProgress = []) (governed : fleet.Governed)
    (distinct : ((origin.issued (past ++ events)).map TaskMessage.id).Nodup)
    {before after : TaskMessage} (stems : Stems (origin.issued past) before)
    (own : before.id = id) (same : before.id = after.id)
    (stored : before ∈ start.shared.backend.store.messages)
    (left : after ∈ fleet.shared.backend.store.messages) :
    before.retried.toNat ≤ after.retried.toNat := by
  induction timely generalizing after with
  | begin =>
    rw [List.append_nil] at distinct
    have assigned := voyage_assigned voyage alone idle governed distinct
    rw [Store.same_of_id (Multiset.nodup_of_le assigned.known distinct) stored left same]
  | join _ created ih =>
    rw [← List.append_assoc] at distinct
    have earlier := Multiset.nodup_of_le (Multiset.map_le_map (issued_le origin _ _)) distinct
    exact ih (governed_before_join governed) earlier same left
  | @move events fleet index member later timely handler found move moved inTime ih =>
    rw [← List.append_assoc] at distinct
    have earlier := Multiset.nodup_of_le (Multiset.map_le_map (issued_le origin _ _)) distinct
    have settings := service_step_settings (service_step_cases moved)
    have middle := timely.voyage voyage
    have governed := (governed_after_move found settings.2).mp governed
    have assigned := voyage_assigned middle alone idle governed earlier
    obtain ⟨policy, failure⟩ := governed member (List.mem_of_getElem? found)
    obtain ⟨-, marked⟩ := (voyage_marked middle alone).members index member found
    have step := task_move_cases (service_move_cases moved) failure
    rw [issued_concat] at distinct
    obtain added | ⟨version, present, kept⟩ := stored_before_move step left
    · have known := stems.mono (issued_le origin past events)
      change ((_ + (↑move.action?.toList : Multiset TaskMessage)).map _).Nodup at distinct
      rw [added] at distinct
      exact absurd same (known.apart distinct)
    · rw [← own, same, ← kept] at inTime
      calc
        before.retried.toNat ≤ version.retried.toNat :=
          ih governed earlier (same.trans kept.symm) present
        _ ≤ after.retried.toNat :=
          retried_after_move step failure marked.carried assigned distinct inTime present left kept

end Fleet

/-! ## A rehearsal

A message comes to a processor with one slot, which is dropped while the handler is at work. Its
successor restores and begins the message again; two attempts fail there, and a third is under way
when the runner of the dropped processor reports the failure of its own. -/

namespace Rehearsal

def promptPolicy : RetryPolicy where
  baseDelay := .zero
  multiplier := .two
  maxJitter := .zero
  maxDelay := .zero

theorem prompt_retry_time (retried : UInt32) (now : Timestamp) (draw : Nat) :
    promptPolicy.retryAt? retried now draw = some now := by
  have wait : promptPolicy.wait retried draw = 0 :=
    Nat.le_zero.mp (promptPolicy.wait_le retried draw)
  have nanos := promptPolicy.retry_time_nanos retried now draw
  have limit : (0 : Nat) < durationLimit := by decide
  have latest : min (now.nanos + ((0 : Nat) : Int)) latestNanos = now.nanos := by
    have notLater := now.notLater
    omega
  rw [wait, if_pos limit, latest] at nanos
  obtain ⟨time, found, same⟩ := Option.map_eq_some_iff.mp nanos
  rw [found, Timestamp.eq_iff_nanos.mpr same]

def promptly : FailureHandler Party (MemoryQueue Party) := fun message error now _ queue =>
  let message := { message with errorMessage := some error.message }
  if message.retryExhausted then
    let reply := queue.kill message
    { state := reply.state
      woken := reply.woken
      events := reply.events
      logs := .exhausted message :: refusalLog reply.answer (.killFailed message.id)
      panicked := reply.hasPanicked }
  else
    let message := { message with retried := message.retried + 1 }
    let reply := queue.retry message now.wall
    { state := reply.state
      woken := reply.woken
      events := reply.events
      logs := .retrying message :: refusalLog reply.answer (.retryFailed message.id)
      panicked := reply.hasPanicked }

theorem promptly_reconciles : promptly = promptPolicy.reconcile MemoryQueue.backend := by
  funext message error now draw queue
  simp only [promptly, RetryPolicy.reconcile, prompt_retry_time]
  rfl

def patient : TaskMessage := { message with retry := 3 }

def harbour : Fleet Unit where
  members := []
  shared := shared

def taking (index : Nat) : List Fleet.Order := List.replicate 3 (.move index (.loop .told now))

/-- A runner begins and ends its handler, or makes its report and gives its slot back. -/
def twoSteps (index ticket : Nat) : List Fleet.Order :=
  List.replicate 2 (.move index (.runner ticket 0 now))

/-- Until the runner of the dropped processor and the last one of its successor have their reports
to make. -/
def overlapping : List Fleet.Order :=
  [.join config promptly, .move 0 (.outside patient), .move 0 (.start now)] ++ taking 0
    ++ twoSteps 0 0 ++ [.move 0 .abandon, .join config promptly, .move 1 (.start now)]
    ++ taking 1 ++ twoSteps 1 0 ++ twoSteps 1 0 ++ taking 1 ++ twoSteps 1 1 ++ twoSteps 1 1
    ++ taking 1 ++ twoSteps 1 2

def failedOnce : TaskMessage :=
  { patient with retried := 1, errorMessage := some "panic: unknown panic payload" }

def failedTwice : TaskMessage := { failedOnce with retried := 2 }

def failedThrice : TaskMessage := { failedOnce with retried := 3 }

def overtakenAttempt : Attempt := ⟨0, 0, patient⟩

def latestAttempt : Attempt := ⟨1, 2, failedTwice⟩

structure Overlap (events : List FleetEvent) (fleet : Fleet Unit)
    (dropped successor : Processor (MemoryQueue Party)) : Prop where
  ran : harbour.run handler overlapping = some (events, fleet)
  marks : marksOf events =
    [.fetched latestAttempt, .fetched ⟨1, 1, failedOnce⟩, .fetched ⟨1, 0, patient⟩, .restored,
      .fetched overtakenAttempt, .restored]
  enqueued : events.filterMap FleetEvent.enqueued? = [patient]
  members : fleet.members = [dropped, successor]
  stop : dropped.crew.stop = true
  failures : dropped.failure = promptly ∧ successor.failure = promptly
  late : dropped.crew.runnerOf? 0 =
    some ⟨0, patient, .reporting (.error (.panicked "unknown panic payload"))⟩
  own : successor.crew.runnerOf? 2 =
    some ⟨2, failedTwice, .reporting (.error (.panicked "unknown panic payload"))⟩
  store : fleet.shared.backend.store =
    { pending := []
      inProgress := [failedTwice]
      scheduled := []
      dead := []
      done := 0
      nextSequence := 2 }
  after_late : ∃ later,
    (fleet.service dropped).after? (MemoryQueue.setting handler) 0 (.runner 0 0 now) =
        some later ∧
      later.shared.backend.store =
        { pending := []
          inProgress := []
          scheduled := [⟨now.wall, 2, failedOnce⟩]
          dead := []
          done := 0
          nextSequence := 3 }
  after_own : ∃ later,
    (fleet.service successor).after? (MemoryQueue.setting handler) 1 (.runner 2 0 now) =
        some later ∧
      failedThrice ∈ later.shared.backend.store.scheduled.map ScheduledTask.message

theorem overlapping_run : ∃ events fleet dropped successor,
    Overlap events fleet dropped successor :=
  ⟨_, _, _, _,
    { ran := rfl
      marks := rfl
      enqueued := rfl
      members := rfl
      stop := rfl
      failures := ⟨rfl, rfl⟩
      late := rfl
      own := rfl
      store := rfl
      after_late := ⟨_, rfl, rfl⟩
      after_own := ⟨_, rfl, List.mem_singleton_self _⟩ }⟩

section Overlaps

variable {events : List FleetEvent} {fleet : Fleet Unit}
  {dropped successor : Processor (MemoryQueue Party)}

theorem Overlap.voyage (overlap : Overlap events fleet dropped successor) :
    Fleet.Voyage harbour events fleet := Fleet.voyage_of_run .begin overlap.ran

theorem Overlap.governed (overlap : Overlap events fleet dropped successor) : fleet.Governed := by
  intro member present
  rw [overlap.members] at present
  refine ⟨promptPolicy, ?_⟩
  rw [← promptly_reconciles]
  rcases List.mem_pair.mp present with rfl | rfl
  · exact overlap.failures.1
  · exact overlap.failures.2

theorem Overlap.distinct (overlap : Overlap events fleet dropped successor) :
    ((harbour.issued events).map TaskMessage.id).Nodup := by
  rw [Fleet.issued, overlap.enqueued]
  decide

theorem Overlap.found (overlap : Overlap events fleet dropped successor) :
    fleet.members[0]? = some dropped ∧ fleet.members[1]? = some successor := by
  rw [overlap.members]
  exact ⟨rfl, rfl⟩

/-- The successor reports for the attempt that stands. -/
theorem Overlap.own_in_time (overlap : Overlap events fleet dropped successor) :
    ¬ LateRetry patient.id (marksOf (events ++ [])) 1 successor fleet.shared.backend
      (.runner 2 0 now) := by
  intro late
  cases late with
  | taken failure found reporting own decided standing present other =>
    rw [overlap.own] at found
    rw [List.append_nil, overlap.marks] at standing
    cases found
    exact other (Option.some.inj standing).symm

end Overlaps

theorem prompt_call {message : TaskMessage} (left : message.retriesLeft ≠ 0) (error : TaskError)
    (now : Moment) (draw : Nat) :
    promptPolicy.call? message now draw (.error error) =
      some ⟨message.afterFailure error.message, .retry now.wall⟩ := by
  rw [RetryPolicy.call?, RetryPolicy.decision?, if_neg left, prompt_retry_time]
  rfl

end Rehearsal

section Voyages

open Fleet

variable {η : Type} {origin fleet : Fleet η} {events : List FleetEvent}

/-- On a voyage of processors with retry policies, over messages with distinct identifiers and with
nothing in progress at first, every runner that has its report to make acts for an attempt that was
begun once, and can move on. Unless its policy finds no retry time, it makes the report that is due:
this is refused and changes nothing if the task is not in progress, and otherwise it takes the entry
of the attempt that was begun last. However the voyage goes on, the count of retries in the store
does not fall for a task of which no retry for an earlier attempt is accepted. -/
theorem late_reports_meet_the_last_attempt (voyage : Voyage origin events fleet)
    (alone : origin.members = []) (idle : origin.shared.backend.store.inProgress = [])
    (governed : fleet.Governed)
    (distinct : ((origin.issued events).map TaskMessage.id).Nodup) :
    let marks := marksOf events
    let queue := fleet.shared.backend
    (∀ (handler : Handler η) (policy : RetryPolicy) (index ticket draw : Nat) (now : Moment)
        (member : Processor (MemoryQueue Party)) (runner : Runner)
        (result : Except TaskError Unit),
      fleet.members[index]? = some member →
        member.failure = policy.reconcile MemoryQueue.backend →
        member.crew.runnerOf? ticket = some runner → runner.stage = .reporting result →
          marks.count (.fetched ⟨index, ticket, runner.message⟩) = 1 ∧
            ∃ later,
              (fleet.service member).after? (MemoryQueue.setting handler) index
                  (.runner ticket draw now) = some later ∧
                later.shared.backend =
                  queue.afterCall (policy.call? runner.message now draw result) ∧
                ∀ call, policy.call? runner.message now draw result = some call →
                  call.Meets marks ⟨index, ticket, runner.message⟩ queue) ∧
      ∀ (id : TaskId) (more : List FleetEvent) (later : Fleet η),
        Timely id events fleet more later → later.Governed →
          ((origin.issued (events ++ more)).map TaskMessage.id).Nodup →
            ∀ before ∈ queue.store.messages, ∀ after ∈ later.shared.backend.store.messages,
              before.id = id → after.id = id → before.retried ≤ after.retried := by
  intro marks queue
  have assigned := voyage_assigned voyage alone idle governed distinct
  constructor
  · intro handler policy index ticket draw now member runner result found failure present reporting
    have carried := ((voyage_marked voyage alone).members index member found).2.carried
    have begun := carried _ (Crew.attempt_of_found present index)
    obtain ⟨later, moved, state⟩ :=
      report_move (fleet.service member) failure present reporting handler index draw now
    refine ⟨?_, later, moved, state, ?_⟩
    · exact Nat.le_antisymm ((marks_numbered events).once _) (List.count_pos_iff.mpr begun)
    · exact fun call made => report_meets assigned made
  · intro id more later timely governedLater distinctLater before stored after left own same
    rw [UInt32.le_iff_toNat_le]
    exact timely.retried_le voyage alone idle governedLater distinctLater
      (assigned.stored before stored) own (own.trans same.symm) stored left

open Rehearsal in
theorem overlapping_reports_meet_the_last_attempt :
    ∃ (events more : List FleetEvent) (fleet later : Fleet Unit),
      Voyage harbour events fleet ∧
        ReportCall.Meets (marksOf events) overtakenAttempt fleet.shared.backend
          ⟨failedOnce, .retry now.wall⟩ ∧
        Timely patient.id events fleet more later ∧
        failedTwice ∈ fleet.shared.backend.store.messages ∧
        failedThrice ∈ later.shared.backend.store.messages ∧
        failedTwice.retried ≤ failedThrice.retried := by
  obtain ⟨events, fleet, dropped, successor, overlap⟩ := overlapping_run
  obtain ⟨outcome, moved, scheduled⟩ := overlap.after_own
  obtain ⟨droppedFound, successorFound⟩ := overlap.found
  obtain ⟨reports, counts⟩ := late_reports_meet_the_last_attempt overlap.voyage rfl rfl
    overlap.governed overlap.distinct
  -- The dropped processor reports for an attempt that was restored.
  obtain ⟨-, -, -, -, meets⟩ := reports handler promptPolicy 0 0 0 now dropped _ _ droppedFound
    (overlap.failures.1.trans promptly_reconciles) overlap.late rfl
  have call : promptPolicy.call? patient now 0 (.error (.panicked "unknown panic payload")) =
      some ⟨failedOnce, .retry now.wall⟩ := prompt_call (by decide) _ _ _
  -- Its successor reports for the attempt that stands.
  have start : Timely patient.id events fleet [] fleet := .begin
  have timely := start.move handler successorFound (.runner 2 0 now) moved overlap.own_in_time
  have settings := service_step_settings (service_step_cases moved)
  have governed := (governed_after_move successorFound settings.2).mpr overlap.governed
  have distinct : ((harbour.issued (events ++ ([] ++ [.moved 1 (.runner 2 0 now)
      ((fleet.service successor).act? (MemoryQueue.setting handler) 1
        (.runner 2 0 now))]))).map TaskMessage.id).Nodup := by
    rw [List.nil_append, issued_concat]
    exact (add_zero (harbour.issued events)).symm ▸ overlap.distinct
  have before : failedTwice ∈ fleet.shared.backend.store.messages := by
    rw [overlap.store]
    decide
  have after : failedThrice ∈ outcome.shared.backend.store.messages :=
    Store.mem_messages_of_scheduled scheduled
  exact
    ⟨events, _, fleet, _, overlap.voyage, meets _ call, timely, before, after,
      counts patient.id _ _ timely governed distinct failedTwice before failedThrice after rfl rfl⟩

open Rehearsal in
/-- A processor is dropped while it runs, and its successor restores. The retry for the attempt that
the dropped processor has begun is accepted: it takes the entry of a later attempt of the message,
and the count of retries falls. -/
theorem late_retry_takes_a_later_entry :
    ∃ (events : List FleetEvent) (fleet : Fleet Unit)
      (dropped : Processor (MemoryQueue Party)) (later : Service (MemoryQueue Party) Unit),
      Voyage harbour events fleet ∧ fleet.Governed ∧
        ((harbour.issued events).map TaskMessage.id).Nodup ∧
        fleet.members[0]? = some dropped ∧ dropped.crew.stop = true ∧
        dropped.crew.runnerOf? 0 =
          some ⟨0, patient, .reporting (.error (.panicked "unknown panic payload"))⟩ ∧
        restoredSince ⟨0, 0, patient⟩ (marksOf events) = true ∧
        standing? patient.id (marksOf events) = some ⟨1, 2, failedTwice⟩ ∧
        fleet.shared.backend.store.inProgress = [failedTwice] ∧
        (fleet.service dropped).after? (MemoryQueue.setting handler) 0 (.runner 0 0 now) =
          some later ∧
        (fleet.shared.backend.retry failedOnce now.wall).answer = .ok () ∧
        later.shared.backend = (fleet.shared.backend.retry failedOnce now.wall).state ∧
        later.shared.backend.store.inProgress = [] ∧
        later.shared.backend.store.scheduled.map ScheduledTask.message = [failedOnce] ∧
        failedOnce.id = failedTwice.id ∧ failedOnce.retried < failedTwice.retried := by
  obtain ⟨events, fleet, dropped, successor, overlap⟩ := overlapping_run
  obtain ⟨later, moved, store⟩ := overlap.after_late
  have failure : dropped.failure = promptPolicy.reconcile MemoryQueue.backend :=
    overlap.failures.1.trans promptly_reconciles
  obtain ⟨again, same, state⟩ := report_move (fleet.service dropped) failure
    overlap.late rfl handler 0 0 now
  obtain rfl : later = again := Option.some.inj (moved.symm.trans same)
  have call : promptPolicy.call? patient now 0 (.error (.panicked "unknown panic payload")) =
      some ⟨failedOnce, .retry now.wall⟩ := prompt_call (by decide) _ _ _
  have present : fleet.shared.backend.store.Holds failedOnce.id := by
    rw [overlap.store]
    decide
  refine
    ⟨events, fleet, dropped, later, overlap.voyage, overlap.governed, overlap.distinct,
      overlap.found.1, overlap.stop, overlap.late, ?_, ?_, ?_, moved, ?_, ?_, ?_, ?_, rfl, ?_⟩
  · rw [overlap.marks]
    rfl
  · rw [overlap.marks]
    rfl
  · rw [overlap.store]
  · exact (fleet.shared.backend.report_accepted failedOnce (.retry now.wall) present).1
  · rw [state, call]
    rfl
  · rw [store]
  · rw [store]
    rfl
  · decide

end Voyages

end TaskDispatch
