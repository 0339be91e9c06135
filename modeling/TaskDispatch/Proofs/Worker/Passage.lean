import TaskDispatch.Proofs.Worker.Ledger

/-!
# Passages

A course tells the deeds of a processor, a passage its steps: who moved, and the service before and
after. What is to be said of one moment of a course, of everything before it or of everything after
it, is said of the steps of its passage, which can be cut anywhere into two passages.
-/

namespace TaskDispatch

set_option autoImplicit false

def Move.isLoop {α : Type} : Move α → Bool
  | .loop _ _ => true
  | _ => false

structure Transition (β η α : Type) where
  before : Service β η
  move : Move α
  after : Service β η

def Transition.act? {β η α : Type} (setting : Setting β η α) (index : Nat)
    (step : Transition β η α) : Option Act :=
  step.before.act? setting index step.move

/-- What a step has done to the processor, the backend and the handlers is what its act says. -/
def Transition.Performed {β η α : Type} (setting : Setting β η α) (index : Nat)
    (step : Transition β η α) : Prop :=
  ServiceMove setting index step.before.processor step.before.shared.backend
    step.before.shared.handlers step.move (step.act? setting index) step.after.processor
    step.after.shared.backend step.after.shared.handlers

def actsOf {β η α : Type} (setting : Setting β η α) (index : Nat)
    (steps : List (Transition β η α)) : List Act :=
  steps.filterMap (Transition.act? setting index)

theorem acts_of_concat {β η α : Type} (setting : Setting β η α) (index : Nat)
    (steps : List (Transition β η α)) (step : Transition β η α) :
    actsOf setting index (steps ++ [step]) =
      actsOf setting index steps ++ (step.act? setting index).toList :=
  filter_map_concat _ _ _

namespace Service

variable {β η α : Type}

def transitions (setting : Setting β η α) (index : Nat) :
    List (Move α) → Service β η → List (Transition β η α)
  | [], _ => []
  | move :: moves, service =>
      match service.after? setting index move with
      | none => []
      | some later =>
          { before := service, move := move, after := later }
            :: transitions setting index moves later

end Service

section Passages

variable {β η α : Type}

inductive Passage (setting : Setting β η α) (index : Nat) (origin : Service β η) :
    List (Transition β η α) → Service β η → Prop where
  | begin : Passage setting index origin [] origin
  | next {steps : List (Transition β η α)} {service later : Service β η}
      (passage : Passage setting index origin steps service) (move : Move α)
      (moved : service.after? setting index move = some later) :
      Passage setting index origin
        (steps ++ [{ before := service, move := move, after := later }]) later

variable {setting : Setting β η α} {index : Nat} {origin middle last : Service β η}
  {steps early late : List (Transition β η α)}

theorem passage_trans (first : Passage setting index origin early middle)
    (second : Passage setting index middle late last) :
    Passage setting index origin (early ++ late) last := by
  induction second with
  | begin =>
      rw [List.append_nil]
      exact first
  | next passage move moved ih =>
      rw [← List.append_assoc]
      exact .next ih move moved

/-- The last step of a passage leads from where the passage before it has come to. -/
theorem passage_before_last {step : Transition β η α}
    (whole : Passage setting index origin (steps ++ [step]) last) :
    Passage setting index origin steps step.before ∧
      step.before.after? setting index step.move = some step.after ∧ step.after = last := by
  generalize known : steps ++ [step] = all at whole
  cases whole with
  | begin => simp at known
  | next passage move moved =>
      obtain ⟨rfl, same⟩ := List.append_inj' known rfl
      obtain rfl := List.singleton_inj.mp same
      exact ⟨passage, moved, rfl⟩

/-- A passage can be cut anywhere. -/
theorem passage_cut (whole : Passage setting index origin (early ++ late) last) :
    ∃ middle, Passage setting index origin early middle ∧
      Passage setting index middle late last := by
  induction late using List.reverseRecOn generalizing last with
  | nil =>
      rw [List.append_nil] at whole
      exact ⟨last, whole, .begin⟩
  | append_singleton late step ih =>
      rw [← List.append_assoc] at whole
      obtain ⟨before, moved, rfl⟩ := passage_before_last whole
      obtain ⟨middle, first, second⟩ := ih before
      exact ⟨middle, first, second.next step.move moved⟩

/-- Before any step of a passage there is a passage to it, and behind it one from it. -/
theorem passage_around {step : Transition β η α}
    (whole : Passage setting index origin (early ++ step :: late) last) :
    Passage setting index origin early step.before ∧
      step.before.after? setting index step.move = some step.after ∧
      Passage setting index step.after late last := by
  rw [← List.singleton_append, ← List.append_assoc] at whole
  obtain ⟨middle, first, second⟩ := passage_cut whole
  obtain ⟨before, moved, rfl⟩ := passage_before_last first
  exact ⟨before, moved, second⟩

/-- Every step of a passage was made from a service to which a passage led. -/
theorem passage_to_step {step : Transition β η α}
    (whole : Passage setting index origin steps last) (member : step ∈ steps) :
    ∃ early, Passage setting index origin early step.before ∧
      step.before.after? setting index step.move = some step.after := by
  obtain ⟨early, late, rfl⟩ := List.append_of_mem member
  obtain ⟨before, moved, _⟩ := passage_around whole
  exact ⟨early, before, moved⟩

theorem passage_performed {step : Transition β η α}
    (whole : Passage setting index origin steps last) (member : step ∈ steps) :
    step.Performed setting index := by
  obtain ⟨_, _, moved⟩ := passage_to_step whole member
  exact service_move_cases moved

/-- A run that can be computed is a passage. -/
theorem passage_of_run {moves : List (Move α)} {deeds : List (Deed α)}
    (ran : origin.run setting index moves = some (deeds, last)) :
    Passage setting index origin (origin.transitions setting index moves) last := by
  induction moves generalizing origin deeds with
  | nil =>
      simp only [Service.run, Option.some.injEq, Prod.mk.injEq] at ran
      rw [← ran.2]
      exact .begin
  | cons move moves ih =>
      simp only [Service.run, Option.bind_eq_bind, Option.bind_eq_some_iff, Prod.exists,
        Option.some.injEq, Prod.mk.injEq] at ran
      obtain ⟨later, moved, rest, _, ranOn, _, rfl⟩ := ran
      rw [Service.transitions, moved]
      exact passage_trans (.next .begin move moved) (ih ranOn)

theorem move_of_transition {moves : List (Move α)} {step : Transition β η α}
    (member : step ∈ origin.transitions setting index moves) : step.move ∈ moves := by
  induction moves generalizing origin with
  | nil => cases member
  | cons move moves ih =>
      rw [Service.transitions] at member
      cases moved : origin.after? setting index move with
      | none =>
          rw [moved] at member
          cases member
      | some later =>
          rw [moved] at member
          rcases List.mem_cons.mp member with rfl | behind
          · exact List.mem_cons_self
          · exact List.mem_cons_of_mem _ (ih behind)

/-- Where a passage leads, a course leads too. -/
theorem course_of_passage (passage : Passage setting index origin steps last) :
    ∃ deeds, Course setting index origin deeds last := by
  induction passage with
  | begin => exact ⟨[], .begin⟩
  | next _ move moved ih =>
      obtain ⟨deeds, course⟩ := ih
      exact ⟨_, course.next move moved⟩

theorem passage_keeps_sound (sound : origin.processor.Sound index)
    (passage : Passage setting index origin steps last) : last.processor.Sound index := by
  induction passage with
  | begin => exact sound
  | next _ move moved ih => exact Processor.service_step_sound (service_step_cases moved) ih

variable {config : ProcessorConfig} {failure : FailureHandler Party β}
  {processor : Processor β} {shared : Shared β η}

/-- On a passage of a new processor, everything holds that holds in its courses. -/
theorem passage_sound (created : Processor.new? config failure = some processor)
    (passage : Passage setting index { processor := processor, shared := shared } steps last) :
    last.processor.Sound index ∧ last.processor.config = config ∧
      last.processor.failure = failure := by
  obtain ⟨deeds, course⟩ := course_of_passage passage
  obtain ⟨_, configNew, failureNew⟩ := Processor.new_processor_settings created
  obtain ⟨configSame, failureSame⟩ := course_settings course
  exact
    ⟨(course_recorded created course).1, configSame.trans configNew,
      failureSame.trans failureNew⟩

end Passages

end TaskDispatch
