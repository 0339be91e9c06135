import TaskDispatch.Proofs.Worker.Passage

/-!
# How often a backend is asked

The states of a backend may tell how often it has restored and how often a fetch was begun. Such a
tally is independent of the acts of a processor: it counts what the backend was really asked for, by
whomever. Every backend can be made to keep one.
-/

namespace TaskDispatch

set_option autoImplicit false

structure Tally where
  restorations : Nat
  fetches : Nat
  deriving DecidableEq

namespace Tally

def none : Tally where
  restorations := 0
  fetches := 0

def restored (tally : Tally) : Tally := { tally with restorations := tally.restorations + 1 }

def fetched (tally : Tally) : Tally := { tally with fetches := tally.fetches + 1 }

end Tally

/-- The states of a backend tell how often it was asked. Neither reports nor a failure handler nor
others ask it to restore or begin a fetch. -/
structure Setting.Tallies {β η α : Type} (setting : Setting β η α)
    (failure : FailureHandler Party β) (tally : β → Tally) : Prop where
  restored : ∀ state,
    tally (setting.plant.backend.restore state).state = (tally state).restored
  begun : ∀ {party wait now state next events},
    setting.plant.backend.startFetch party wait now state = some (next, events) →
      tally next = (tally state).fetched
  advanced : ∀ {cause party now state next step woken},
    setting.plant.backend.advanceFetch cause party now state = some (next, step, woken) →
      tally next = tally state
  completed : ∀ message state,
    tally (setting.plant.backend.complete message state).state = tally state
  failed : ∀ message error now draw state,
    tally (failure message error now draw state).state = tally state
  others : ∀ action state, tally (setting.outside action state).1 = tally state

section Moves

variable {β η α : Type} {setting : Setting β η α} {failure : FailureHandler Party β}
  {tally : β → Tally} {index : Nat}

theorem tally_after_loop_move {timeout : Duration} {cause : WakeCause} {now : Moment}
    {crew next : Crew} {state later : β} {act : Option Act}
    (tallies : setting.Tallies failure tally)
    (moved : LoopMove setting.plant.backend index timeout cause now crew state act next later) :
    (tally later).restorations = (tally state).restorations ∧
      act.any Act.isRestoration = false := by
  cases moved with
  | stopped | overdue | admitted | queued | resumed => exact ⟨rfl, rfl⟩
  | begun _ _ fetch =>
      rw [tallies.begun fetch]
      exact ⟨rfl, rfl⟩
  | waiting _ fetch | answered _ fetch =>
      rw [tallies.advanced fetch]
      exact ⟨rfl, rfl⟩

theorem tally_after_runner_move {ticket draw : Nat} {now : Moment} {crew next : Crew}
    {state later : β} {handlers changed : η} {act : Option Act}
    (tallies : setting.Tallies failure tally)
    (moved : RunnerMove setting.plant failure ticket draw now crew state handlers act next later
      changed) :
    tally later = tally state ∧ act.any Act.isRestoration = false := by
  cases moved with
  | called | handled | retired => exact ⟨rfl, rfl⟩
  | completed => exact ⟨tallies.completed _ _, rfl⟩
  | failed => exact ⟨tallies.failed _ _ _ _ _, rfl⟩

/-- A backend restores exactly when an act says so, and begins fetches for the loop only. -/
theorem tally_after_move {processor later : Processor β} {state next : β} {handlers changed : η}
    {move : Move α} {act : Option Act} (tallies : setting.Tallies failure tally)
    (governed : processor.failure = failure)
    (moved : ServiceMove setting index processor state handlers move act later next changed) :
    (tally next).restorations =
        (tally state).restorations + act.toList.countP Act.isRestoration ∧
      (move.isLoop = false → (tally next).fetches = (tally state).fetches) := by
  have uncounted (unasked : act.any Act.isRestoration = false) :
      act.toList.countP Act.isRestoration = 0 := by
    cases act with
    | none => rfl
    | some act =>
        have unasked : ¬ act.isRestoration = true := by simpa using unasked
        simp [unasked]
  cases moved with
  | startPanicked | started =>
      rw [tallies.restored]
      exact ⟨rfl, fun _ => rfl⟩
  | dispatched step =>
      obtain ⟨same, unasked⟩ := tally_after_loop_move tallies step
      rw [same, uncounted unasked]
      exact ⟨rfl, fun other => by cases other⟩
  | executed step =>
      rw [governed] at step
      obtain ⟨same, unasked⟩ := tally_after_runner_move tallies step
      rw [same, uncounted unasked]
      exact ⟨rfl, fun _ => rfl⟩
  | acted action =>
      rw [tallies.others]
      exact ⟨rfl, fun _ => rfl⟩
  | startRefused | terminationRefused | terminating | closed | keptOn | dropped =>
      exact ⟨rfl, fun _ => rfl⟩

theorem tally_after_passage {config : ProcessorConfig} {processor : Processor β}
    {shared : Shared β η} {steps : List (Transition β η α)} {service : Service β η}
    (tallies : setting.Tallies failure tally)
    (created : Processor.new? config failure = some processor)
    (passage : Passage setting index { processor := processor, shared := shared } steps service) :
    (tally service.shared.backend).restorations =
      (tally shared.backend).restorations +
        (actsOf setting index steps).countP Act.isRestoration := by
  induction passage with
  | begin => rfl
  | @next steps service later passage move moved ih =>
      have governed := (passage_sound created passage).2.2
      have last := (tally_after_move tallies governed (service_move_cases moved)).1
      rw [last, ih, acts_of_concat, List.countP_append, ← Nat.add_assoc]
      rfl

end Moves

section Keeping

/-- The outcome of an operation, on another state. -/
def Reply.mapState {κ β γ α : Type} (change : β → γ) (reply : Reply κ β α) : Reply κ γ α where
  answer := reply.answer
  state := change reply.state
  woken := reply.woken
  events := reply.events

/-- The same backend, which keeps a tally. -/
def Backend.tallying {κ β : Type} (backend : Backend κ β) : Backend κ (β × Tally) where
  startFetch party wait now state :=
    (backend.startFetch party wait now state.1).map fun begun =>
      ((begun.1, state.2.fetched), begun.2)
  advanceFetch cause party now state :=
    (backend.advanceFetch cause party now state.1).map fun moved => ((moved.1, state.2), moved.2)
  wakeTime party state := backend.wakeTime party state.1
  restore state := (backend.restore state.1).mapState fun later => (later, state.2.restored)
  complete message state :=
    (backend.complete message state.1).mapState fun later => (later, state.2)
  retry message retryAt state :=
    (backend.retry message retryAt state.1).mapState fun later => (later, state.2)
  kill message state := (backend.kill message state.1).mapState fun later => (later, state.2)

variable {β η α : Type}

def Setting.tallying (setting : Setting β η α) : Setting (β × Tally) η α where
  plant := { backend := setting.plant.backend.tallying, handler := setting.plant.handler }
  outside action state :=
    let (later, woken) := setting.outside action state.1
    ((later, state.2), woken)

theorem reconcile_keeps_tally (policy : RetryPolicy) (backend : Backend Party β)
    (message : TaskMessage) (error : TaskError) (now : Moment) (draw : Nat) (state : β × Tally) :
    (policy.reconcile backend.tallying message error now draw state).state.2 = state.2 := by
  unfold RetryPolicy.reconcile
  by_cases exhausted : ({ message with errorMessage := some error.message } :
      TaskMessage).retryExhausted = true
  · rw [if_pos exhausted]
    rfl
  · rw [if_neg exhausted]
    cases policy.retryAt? ({ message with errorMessage := some error.message } :
      TaskMessage).retried now.wall draw with
    | none => rfl
    | some retryAt => rfl

theorem tallying_tallies (setting : Setting β η α) (policy : RetryPolicy) :
    setting.tallying.Tallies (policy.reconcile setting.tallying.plant.backend) Prod.snd where
  restored := fun _ => rfl
  begun := by
    intro party wait now state next events begun
    obtain ⟨_, _, same⟩ := Option.map_eq_some_iff.mp begun
    cases same
    rfl
  advanced := by
    intro cause party now state next step woken advanced
    obtain ⟨⟨_, _, _⟩, _, same⟩ := Option.map_eq_some_iff.mp advanced
    cases same
    rfl
  completed := fun _ _ => rfl
  failed := reconcile_keeps_tally policy setting.plant.backend
  others := fun _ _ => rfl

end Keeping

end TaskDispatch
