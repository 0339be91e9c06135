import TaskDispatch.Proofs.Worker.StopSignal
import TaskDispatch.Proofs.Worker.Vigilance

/-!
# What ends a dispatch loop

A dispatch loop on a queue in memory ends in two ways only: it reads the stop flag as set, or it is
to begin a fetch with a deadline that the clock cannot show, and panics. Whatever fetches bring,
however handlers and reports end and whatever others do to the queue, the loop goes on. So as long
as the clock has room for the timeout, nothing but the stop flag ends the loop. Settings are not
checked for that, and with the longest timeout that they accept the first fetch ends the loop.
-/

namespace TaskDispatch

set_option autoImplicit false

/-- The clock can show the deadline of a fetch with a timeout, and the end of the wait for a retry
at any time that there is. -/
structure Moment.Roomy (timeout : Duration) (now : Moment) : Prop where
  fetch : now.clock + timeout.nanos < clockLimit
  retry : now.clock + (latestNanos - earliestNanos).toNat < clockLimit

theorem Moment.Roomy.wait_in_range {timeout : Duration} {now : Moment} (roomy : now.Roomy timeout)
    (retryAt : Timestamp) : now.clock + now.wall.nanosUntil retryAt < clockLimit := by
  have latest := retryAt.notLater
  have earliest := now.wall.notEarlier
  have wait : now.wall.nanosUntil retryAt ≤ (latestNanos - earliestNanos).toNat := by
    unfold Timestamp.nanosUntil
    omega
  have room := roomy.retry
  omega

namespace MemoryQueue

variable {κ : Type} [DecidableEq κ]

/-- A fetch from a queue in memory neither panics nor is refused. -/
theorem fetch_returns {cause : WakeCause} {caller : κ} {now : Moment}
    {queue next : MemoryQueue κ} {answer : Except CallFailure (Option TaskMessage)}
    {woken : List κ}
    (advanced : queue.advanceFetch cause caller now = some (next, .returned answer, woken)) :
    ∃ found, answer = .ok found := by
  simp only [advanceFetch, Option.bind_eq_bind, Option.bind_eq_some_iff] at advanced
  obtain ⟨fetch, _, advanced⟩ := advanced
  cases stage : fetch.stage with
  | looking =>
      simp only [stage, look, Option.some.injEq, Prod.mk.injEq] at advanced
      obtain ⟨_, step, _⟩ := advanced
      split at step
      · exact ⟨_, (FetchStep.returned.inj step).symm⟩
      · cases step
  | looked nextRetry =>
      simp only [stage, settle, Option.some.injEq, Prod.mk.injEq] at advanced
      obtain ⟨_, step, _⟩ := advanced
      split at step
      · exact ⟨_, (FetchStep.returned.inj step).symm⟩
      · split at step
        · cases step
        · split at step <;> cases step
  | asleep wakeAt =>
      simp only [stage, Option.bind_eq_some_iff, Prod.exists, Option.some.injEq,
        Prod.mk.injEq] at advanced
      obtain ⟨_, _, _, _, step, _⟩ := advanced
      cases step

/-- A fetch is begun exactly if the clock can show its deadline. -/
theorem start_refused_iff {caller : κ} {timeout : Duration} {now : Moment}
    {queue : MemoryQueue κ} :
    MemoryQueue.backend.startFetch caller timeout now queue = none ↔
      clockLimit ≤ now.clock + timeout.nanos := by
  simp only [backend, startFetch, Moment.deadline?, Option.map_eq_none_iff]
  split
  next room => simpa using room
  next beyond => simpa using beyond

end MemoryQueue

namespace Transition

variable {η α : Type}

structure ReadsStop (step : Transition (MemoryQueue Party) η α) : Prop where
  loop : step.move.isLoop = true
  checking : step.before.processor.crew.loop = .checking
  set : step.before.processor.crew.stop = true

/-- In this step the loop reads the stop flag as not set, and is to begin a fetch with a deadline
beyond the clock. -/
structure OutrunsClock (step : Transition (MemoryQueue Party) η α) : Prop where
  beyond : ∃ cause now, step.move = .loop cause now ∧
    clockLimit ≤ now.clock + step.before.processor.config.dequeueTimeout.nanos
  checking : step.before.processor.crew.loop = .checking
  unset : step.before.processor.crew.stop = false

end Transition

section Moves

variable {η α : Type} {setting : Setting (MemoryQueue Party) η α} {index : Nat}
  {crew next : Crew} {queue later : MemoryQueue Party} {act : Option Act}

theorem Move.is_loop_iff {move : Move α} :
    move.isLoop = true ↔ ∃ cause now, move = .loop cause now := by
  cases move <;> simp [Move.isLoop]

theorem loop_move_ends {timeout : Duration} {cause : WakeCause} {now : Moment}
    (moved : LoopMove MemoryQueue.backend index timeout cause now crew queue act next later) :
    (next.loop = .stopped ↔ crew.loop = .checking ∧ crew.stop = true) ∧
      (next.loop = .crashed ↔
        crew.loop = .checking ∧ crew.stop = false ∧ clockLimit ≤ now.clock + timeout.nanos) := by
  cases moved with
  | stopped checking stop => simp [checking, stop]
  | overdue checking going fetch =>
      simp [checking, going, MemoryQueue.start_refused_iff.mp fetch]
  | begun checking going fetch =>
      have room : ¬ clockLimit ≤ now.clock + timeout.nanos := by
        intro beyond
        have refused : MemoryQueue.backend.startFetch (.loop index) timeout now queue = none :=
          MemoryQueue.start_refused_iff.mpr beyond
        rw [fetch] at refused
        cases refused
      simp [checking, going, room]
  | waiting fetching => simp [fetching]
  | @answered _ _ answer fetching fetch =>
      obtain ⟨found, rfl⟩ := MemoryQueue.fetch_returns fetch
      cases found <;> simp [fetching, LoopStage.afterAnswer]
  | admitted holding | resumed holding => simp [holding, Crew.assign]
  | queued holding => simp [holding]

/-- What a move of the loop ends it by. The loop has not ended before. -/
theorem dispatch_ends {processor after : Processor (MemoryQueue Party)} {handlers changed : η}
    {cause : WakeCause} {now : Moment} (memory : setting.plant.backend = MemoryQueue.backend)
    (moved : ServiceMove setting index processor queue handlers (.loop cause now) act after later
      changed) :
    processor.crew.loop.hasEnded = false ∧
      (after.crew.loop = .stopped ↔
        processor.crew.loop = .checking ∧ processor.crew.stop = true) ∧
      (after.crew.loop = .crashed ↔
        processor.crew.loop = .checking ∧ processor.crew.stop = false ∧
          clockLimit ≤ now.clock + processor.config.dequeueTimeout.nanos) := by
  cases moved with
  | dispatched move =>
      rw [memory] at move
      exact ⟨(Processor.loop_active move.step).2.1, loop_move_ends move⟩

variable {step : Transition (MemoryQueue Party) η α}

/-- A step ends the loop if it reads the flag as set or outruns the clock, and in no other case. -/
theorem step_ends_iff (memory : setting.plant.backend = MemoryQueue.backend)
    (moved : step.before.after? setting index step.move = some step.after)
    (sound : step.before.processor.Sound index) :
    (step.after.processor.crew.loop = .stopped ↔
        step.before.processor.crew.loop = .stopped ∨ step.ReadsStop) ∧
      (step.after.processor.crew.loop = .crashed ↔
        step.before.processor.crew.loop = .crashed ∨ step.OutrunsClock) := by
  have possible := service_move_cases moved
  cases own : step.move.isLoop with
  | true =>
      obtain ⟨cause, now, same⟩ : ∃ cause now, step.move = .loop cause now :=
        Move.is_loop_iff.mp own
      rw [same] at possible
      obtain ⟨alive, stopped, crashed⟩ := dispatch_ends memory possible
      -- A loop that moves has not ended, so it ends in this step or not at all.
      have going {stage : LoopStage} (ended : stage.hasEnded = true) :
          step.before.processor.crew.loop ≠ stage := by
        rintro rfl
        rw [alive] at ended
        cases ended
      constructor
      · rw [stopped, or_iff_right (going rfl)]
        exact ⟨fun ⟨checking, set⟩ => ⟨own, checking, set⟩,
          fun reads => ⟨reads.checking, reads.set⟩⟩
      · rw [crashed, or_iff_right (going rfl)]
        constructor
        · rintro ⟨checking, unset, beyond⟩
          exact ⟨⟨cause, now, same, beyond⟩, checking, unset⟩
        · rintro ⟨⟨_, _, again, beyond⟩, checking, unset⟩
          cases same.symm.trans again
          exact ⟨checking, unset, beyond⟩
  | false =>
      constructor
      · rw [stage_after_other possible sound own (by simp) (by simp), or_iff_left]
        intro reads
        rw [reads.loop] at own
        cases own
      · rw [stage_after_other possible sound own (by simp) (by simp), or_iff_left]
        intro outruns
        obtain ⟨_, _, same, _⟩ := outruns.beyond
        rw [same] at own
        cases own

end Moves

section Runs

variable {η α : Type} {config : ProcessorConfig}
  {failure : FailureHandler Party (MemoryQueue Party)} {processor : Processor (MemoryQueue Party)}
  {shared : Shared (MemoryQueue Party) η} {setting : Setting (MemoryQueue Party) η α} {index : Nat}
  {steps : List (Transition (MemoryQueue Party) η α)} {service : Service (MemoryQueue Party) η}

theorem passage_ends_iff (memory : setting.plant.backend = MemoryQueue.backend)
    (created : Processor.new? config failure = some processor)
    (passage : Passage setting index { processor := processor, shared := shared } steps service) :
    (service.processor.crew.loop = .stopped ↔ ∃ step ∈ steps, step.ReadsStop) ∧
      (service.processor.crew.loop = .crashed ↔ ∃ step ∈ steps, step.OutrunsClock) := by
  induction passage with
  | begin =>
      have sound : processor.Sound index := Processor.new_processor_sound created
      have new : processor.crew.loop = .idle :=
        (sound.inPhase.unstarted (Processor.new_processor_settings created).1).1
      simp [new]
  | @next steps service later passage move moved ih =>
      obtain ⟨stopped, crashed⟩ := ih
      let step : Transition (MemoryQueue Party) η α :=
        { before := service, move := move, after := later }
      obtain ⟨reads, outruns⟩ :=
        step_ends_iff memory (show step.before.after? setting index step.move = some step.after
          from moved) (passage_sound created passage).1
      have behind (ending : Transition (MemoryQueue Party) η α → Prop) :
          (∃ other ∈ steps ++ [step], ending other) ↔
            (∃ earlier ∈ steps, ending earlier) ∨ ending step := by
        simp [or_and_right, exists_or]
      constructor
      · rw [behind, ← stopped]
        exact reads
      · rw [behind, ← crashed]
        exact outruns

structure LoopEnds (timeout : Duration) (steps : List (Transition (MemoryQueue Party) η α))
    (service : Service (MemoryQueue Party) η) : Prop where
  stopped : service.processor.crew.loop = .stopped ↔ ∃ step ∈ steps, step.ReadsStop
  crashed : service.processor.crew.loop = .crashed ↔ ∃ step ∈ steps, step.OutrunsClock
  final : ∀ (before after : List (Transition (MemoryQueue Party) η α))
    (step : Transition (MemoryQueue Party) η α), steps = before ++ step :: after →
      step.ReadsStop ∨ step.OutrunsClock → ∀ next ∈ after, next.move.isLoop = false
  endures : (∀ now ∈ momentsOf steps, now.Roomy timeout) →
    (service.processor.crew.loop.hasEnded = true ↔ ∃ step ∈ steps, step.ReadsStop) ∧
      ∀ now ∈ momentsOf steps, ∀ retryAt : Timestamp,
        now.clock + now.wall.nanosUntil retryAt < clockLimit

theorem roomy_not_outrun {step : Transition (MemoryQueue Party) η α} (member : step ∈ steps)
    (same : step.before.processor.config = config)
    (roomy : ∀ now ∈ momentsOf steps, now.Roomy config.dequeueTimeout) : ¬ step.OutrunsClock := by
  intro outruns
  obtain ⟨cause, now, move, beyond⟩ := outruns.beyond
  have made : now ∈ momentsOf steps :=
    List.mem_filterMap.mpr ⟨step, member, by rw [move]; rfl⟩
  rw [same] at beyond
  exact absurd (roomy now made).fetch (Nat.not_lt.mpr beyond)

/-- Whatever the queue holds at first, whatever handlers do and whatever others do to the queue:
as long as the clock has room, the loop ends only by reading the stop flag as set. -/
theorem loop_ends_at_stop (setting : Setting (MemoryQueue Party) η α) (index : Nat)
    (memory : setting.plant.backend = MemoryQueue.backend)
    (created : Processor.new? config failure = some processor)
    (passage : Passage setting index { processor := processor, shared := shared } steps service) :
    LoopEnds config.dequeueTimeout steps service := by
  obtain ⟨stopped, crashed⟩ := passage_ends_iff memory created passage
  constructor
  case stopped => exact stopped
  case crashed => exact crashed
  case final =>
    rintro before after step rfl ending
    obtain ⟨first, moved, behind⟩ := passage_around passage
    have sound := (passage_sound created first).1
    obtain ⟨reads, outruns⟩ := step_ends_iff memory moved sound
    have ended : step.after.processor.crew.loop.hasEnded = true := by
      rcases ending with read | outran
      · rw [reads.mpr (.inr read)]
        rfl
      · rw [outruns.mpr (.inr outran)]
        rfl
    have soundThen : step.after.processor.Sound index :=
      (passage_sound created (first.next step.move moved)).1
    exact (ended_for_good soundThen ended behind).2
  case endures =>
    intro roomy
    -- No reading of the clock in this run is one that a fetch could outrun.
    have alive : service.processor.crew.loop ≠ .crashed := by
      intro dead
      obtain ⟨step, member, outruns⟩ := crashed.mp dead
      obtain ⟨_, first, _⟩ := passage_to_step passage member
      exact roomy_not_outrun member (passage_sound created first).2.1 roomy outruns
    refine ⟨?_, fun now made => (roomy now made).wait_in_range⟩
    rw [← stopped]
    cases loop : service.processor.crew.loop with
    | crashed => exact absurd loop alive
    | stopped => simp [LoopStage.hasEnded]
    | idle | checking | fetching | admitting => simp [LoopStage.hasEnded]

end Runs

namespace Rehearsal

def wholeDay : List (Move TaskMessage) := opening ++ crowding ++ .terminate :: windingUp

theorem whole_day_ran :
    ∃ deeds last,
      Service.run (MemoryQueue.setting handler) 0 wholeDay
          { processor := processor, shared := shared } = some (deeds, last) ∧
        last.processor.crew.loop = .stopped :=
  ⟨_, _, rfl, rfl⟩

theorem whole_day_roomy :
    ∀ time ∈ momentsOf (Service.transitions (MemoryQueue.setting handler) 0 wholeDay
      { processor := processor, shared := shared }), time.Roomy config.dequeueTimeout := by
  have moments : momentsOf (Service.transitions (MemoryQueue.setting handler) 0 wholeDay
      { processor := processor, shared := shared }) = List.replicate 13 now := rfl
  intro time made
  rw [moments] at made
  rw [List.eq_of_mem_replicate made]
  exact ⟨by decide, by decide⟩

/-- The longest timeout that settings can have. -/
def endless : ProcessorConfig := { config with dequeueTimeout := .ofSeconds 18446744073709551615 }

def endlessText : String :=
  "\x7b\"concurrency\":1," ++
    "\"dequeue_timeout\":\x7b\"secs\":18446744073709551615,\"nanos\":0\x7d\x7d"

end Rehearsal

open Rehearsal in
theorem rehearsal_ends_at_stop :
    ∃ (steps : List (Transition (MemoryQueue Party) Unit TaskMessage))
        (last : Service (MemoryQueue Party) Unit),
      (∀ time ∈ momentsOf steps, time.Roomy config.dequeueTimeout) ∧
        last.processor.crew.loop = .stopped ∧
        LoopEnds config.dequeueTimeout steps last := by
  obtain ⟨deeds, last, ran, stopped⟩ := whole_day_ran
  exact
    ⟨_, last, whole_day_roomy, stopped,
      loop_ends_at_stop (MemoryQueue.setting handler) 0 rfl created (passage_of_run ran)⟩

open Rehearsal in
/-- Settings with the longest timeout are accepted from a JSON text. A processor with them starts,
and the first step of its loop is the last one: nobody has raised the stop flag, and the processor
is running to all appearances. -/
theorem longest_timeout_ends_loop :
    ProcessorConfig.codec.decode (Bytes.ofText endlessText) = .ok endless ∧
      ∃ created started ended,
        Processor.new? endless failure = some created ∧
          Service.after? (MemoryQueue.setting handler) 0
              { processor := created, shared := shared } (.start now) = some started ∧
          Service.after? (MemoryQueue.setting handler) 0 started (.loop .told now) = some ended ∧
          ended.processor.state = .running ∧
          ended.processor.crew.stop = false ∧
          ended.processor.crew.loop = .crashed :=
  ⟨rfl, _, _, _, rfl, rfl, rfl, rfl, rfl, rfl⟩

end TaskDispatch
