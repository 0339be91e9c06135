import TaskDispatch.Proofs.Worker.Fleet

/-!
# Attempts in a fleet

Every fetch that brings a message to a processor begins an attempt at it. The processor counts these
fetches, and the runner that the message is handed to has the number as its ticket; so a processor,
a ticket and a message name an attempt. On a voyage each fetch and each restoration leaves a mark.
The attempt that stands for an identifier is the one begun last, if nothing was restored since.
-/

namespace TaskDispatch

set_option autoImplicit false

/-- The execution of a message under a ticket by the processor with an index. -/
structure Attempt where
  processor : Nat
  ticket : Nat
  message : TaskMessage
  deriving DecidableEq

/-- What a voyage leaves behind: an attempt has begun, or a processor has restored. -/
inductive Mark where
  | fetched (attempt : Attempt)
  | restored
  deriving DecidableEq

def Mark.isFetchOf (processor : Nat) : Mark → Bool
  | .fetched attempt => attempt.processor == processor
  | .restored => false

def fetchCount (processor : Nat) (marks : List Mark) : Nat :=
  marks.countP (Mark.isFetchOf processor)

/-- The marks after an act of the processor with an index, the last one first. -/
def markedBy (index : Nat) (marks : List Mark) : Option Act → List Mark
  | some (.restored _) => .restored :: marks
  | some (.fetchEnded (.ok (some message))) =>
      .fetched ⟨index, fetchCount index marks, message⟩ :: marks
  | _ => marks

def markedAfter (marks : List Mark) : FleetEvent → List Mark
  | .joined => marks
  | .moved index _ act => markedBy index marks act

def marksOf (events : List FleetEvent) : List Mark := events.foldl markedAfter []

/-- The attempt at a message that was begun last, if nothing was restored since. -/
def standing? (id : TaskId) : List Mark → Option Attempt
  | [] => none
  | .restored :: _ => none
  | .fetched attempt :: older =>
      if attempt.message.id = id then some attempt else standing? id older

def restoredSince (own : Attempt) : List Mark → Bool
  | [] => false
  | .restored :: older => decide (.fetched own ∈ older)
  | .fetched attempt :: older => decide (attempt ≠ own) && restoredSince own older

section Marks

variable {index other : Nat} {marks : List Mark} {mark : Mark} {act : Option Act} {id : TaskId}
  {attempt : Attempt}

theorem marks_concat (events : List FleetEvent) (event : FleetEvent) :
    marksOf (events ++ [event]) = markedAfter (marksOf events) event :=
  List.foldl_concat ..

theorem marked_cases (index : Nat) (marks : List Mark) (act : Option Act) :
    markedBy index marks act = marks ∨ ∃ mark, markedBy index marks act = mark :: marks := by
  unfold markedBy
  split
  · exact .inr ⟨_, rfl⟩
  · exact .inr ⟨_, rfl⟩
  · exact .inl rfl

/-- No mark is lost. -/
theorem mem_marked (member : mark ∈ marks) : mark ∈ markedBy index marks act := by
  obtain same | ⟨new, same⟩ := marked_cases index marks act
  · rw [same]
    exact member
  · rw [same]
    exact List.mem_cons_of_mem _ member

theorem fetch_count_elsewhere (differs : other ≠ index) (marks : List Mark) (act : Option Act) :
    fetchCount other (markedBy index marks act) = fetchCount other marks := by
  unfold markedBy
  split
  · exact List.countP_cons_of_neg (by simp [Mark.isFetchOf])
  · exact List.countP_cons_of_neg (by simpa [Mark.isFetchOf] using differs.symm)
  · rfl

theorem fetch_count_after_fetch (index : Nat) (marks : List Mark) (message : TaskMessage) :
    fetchCount index (markedBy index marks (some (.fetchEnded (.ok (some message))))) =
      fetchCount index marks + 1 :=
  List.countP_cons_of_pos (by simp [Mark.isFetchOf])

/-- Attempts are numbered: every fetch begins one that has not been begun before. -/
structure Numbered (marks : List Mark) : Prop where
  below : ∀ attempt, .fetched attempt ∈ marks →
    attempt.ticket < fetchCount attempt.processor marks
  once : ∀ attempt, marks.count (.fetched attempt) ≤ 1

theorem numbered_after_act (numbered : Numbered marks) (index : Nat) (act : Option Act) :
    Numbered (markedBy index marks act) := by
  unfold markedBy
  split
  case h_1 =>
    constructor
    · intro attempt member
      rcases List.mem_cons.mp member with new | old
      · cases new
      · exact numbered.below attempt old
    · intro attempt
      rw [List.count_cons_of_ne (by simp)]
      exact numbered.once attempt
  case h_2 message =>
    have grown (processor : Nat) : fetchCount processor marks ≤ fetchCount processor
        (.fetched ⟨index, fetchCount index marks, message⟩ :: marks) :=
      (List.sublist_cons_self _ _).countP_le
    have counted := fetch_count_after_fetch index marks message
    constructor
    · intro attempt member
      rcases List.mem_cons.mp member with new | old
      · cases new
        exact counted ▸ Nat.lt_succ_self _
      · exact Nat.lt_of_lt_of_le (numbered.below attempt old) (grown _)
    · intro attempt
      by_cases new : (⟨index, fetchCount index marks, message⟩ : Attempt) = attempt
      · have fresh : .fetched attempt ∉ marks := by
          intro old
          have below := numbered.below attempt old
          rw [← new] at below
          exact Nat.lt_irrefl _ below
        rw [new, List.count_cons_self, List.count_eq_zero_of_not_mem fresh]
      · rw [List.count_cons_of_ne (by simpa using new)]
        exact numbered.once attempt
  case h_3 => exact numbered

theorem marks_numbered (events : List FleetEvent) : Numbered (marksOf events) := by
  induction events using List.reverseRecOn with
  | nil => exact ⟨fun _ member => absurd member List.not_mem_nil, fun _ => Nat.zero_le _⟩
  | append_singleton events event ih =>
    rw [marks_concat]
    cases event with
    | joined => exact ih
    | moved index move act => exact numbered_after_act ih index act

/-- The standing attempt is one at the message, and nothing was restored since it was begun. -/
theorem standing_cases (standing : standing? id marks = some attempt) :
    attempt.message.id = id ∧ .fetched attempt ∈ marks ∧ restoredSince attempt marks = false := by
  induction marks with
  | nil => cases standing
  | cons mark older ih =>
    cases mark with
    | restored => cases standing
    | fetched last =>
      simp only [standing?] at standing
      split at standing
      case isTrue own =>
        cases standing
        exact ⟨own, List.mem_cons_self, by simp [restoredSince]⟩
      case isFalse =>
        obtain ⟨own, member, unrestored⟩ := ih standing
        exact ⟨own, List.mem_cons_of_mem _ member, by simp [restoredSince, unrestored]⟩

end Marks

namespace Crew

def fetches (crew : Crew) : Nat := crew.nextTicket + crew.loop.held?.toList.length

def attempts (index : Nat) (crew : Crew) : List Attempt :=
  crew.loop.held?.toList.map (fun message => ⟨index, crew.nextTicket, message⟩)
    ++ crew.runners.map fun runner => ⟨index, runner.ticket, runner.message⟩

/-- The marks tell of every attempt in the hands of a crew, and of no other fetch of its loop. -/
structure Marked (index : Nat) (marks : List Mark) (crew : Crew) : Prop where
  counted : fetchCount index marks = crew.fetches
  carried : ∀ attempt ∈ crew.attempts index, .fetched attempt ∈ marks

variable {index : Nat} {marks : List Mark} {crew next : Crew} {act : Option Act}

/-- A move that brings no message leaves no crew with more attempts. -/
theorem Marked.fewer (marked : crew.Marked index marks)
    (count : fetchCount index (markedBy index marks act) = fetchCount index marks)
    (fetches : next.fetches = crew.fetches)
    (attempts : next.attempts index ⊆ crew.attempts index) :
    next.Marked index (markedBy index marks act) where
  counted := by rw [count, marked.counted, fetches]
  carried := fun attempt member => mem_marked (marked.carried attempt (attempts member))

theorem Marked.elsewhere (marked : crew.Marked index marks) {other : Nat}
    (differs : index ≠ other) : crew.Marked index (markedBy other marks act) where
  counted := (fetch_count_elsewhere differs marks act).trans marked.counted
  carried := fun attempt member => mem_marked (marked.carried attempt member)

theorem fetches_of_held (held : next.loop.held? = crew.loop.held?)
    (ticket : next.nextTicket = crew.nextTicket) : next.fetches = crew.fetches := by
  rw [fetches, fetches, held, ticket]

theorem attempts_of_held (held : next.loop.held? = crew.loop.held?)
    (ticket : next.nextTicket = crew.nextTicket) (runners : next.runners = crew.runners) :
    next.attempts index ⊆ crew.attempts index := by
  rw [attempts, attempts, held, ticket, runners]
  exact List.Subset.refl _

/-- The message in hand gets the next ticket. -/
theorem attempts_after_assign {message : TaskMessage} (held : crew.loop.held? = some message)
    (slots : Slots Party) :
    (({ crew with slots := slots } : Crew).assign message).fetches = crew.fetches ∧
      (({ crew with slots := slots } : Crew).assign message).attempts index ⊆
        crew.attempts index := by
  constructor
  · rw [fetches, fetches, held]
    rfl
  · intro attempt member
    simp only [attempts, assign, LoopStage.held?, Option.toList_none, List.map_nil,
      List.nil_append, List.map_append, List.map_cons, List.mem_append,
      List.mem_singleton] at member
    rw [attempts, held]
    rcases member with before | new
    · exact List.mem_append_right _ before
    · rw [new]
      exact List.mem_append_left _ (List.mem_singleton_self _)

theorem attempts_after_set_runner {ticket : Nat} {runner : Runner}
    (found : crew.runnerOf? ticket = some runner) (stage : RunnerStage) :
    (crew.setRunner { runner with stage := stage }).attempts index ⊆ crew.attempts index := by
  intro attempt member
  rcases List.mem_append.mp member with held | carried
  · exact List.mem_append_left _ held
  · obtain ⟨other, among, rfl⟩ := List.mem_map.mp carried
    obtain ⟨before, present, rfl⟩ := List.mem_map.mp among
    apply List.mem_append_right
    split
    · exact List.mem_map.mpr ⟨runner, mem_of_found found, rfl⟩
    · exact List.mem_map.mpr ⟨before, present, rfl⟩

end Crew

section Moves

variable {β η α : Type} {index ticket draw : Nat} {marks : List Mark} {crew next : Crew}
  {act : Option Act}

theorem loop_move_marked {backend : Backend Party β} {timeout : Duration} {cause : WakeCause}
    {now : Moment} {state later : β}
    (move : LoopMove backend index timeout cause now crew state act next later)
    (marked : crew.Marked index marks) : next.Marked index (markedBy index marks act) := by
  have still {act : Option Act} (unmarked : markedBy index marks act = marks)
      (held : next.loop.held? = crew.loop.held?) (ticket : next.nextTicket = crew.nextTicket)
      (runners : next.runners = crew.runners) : next.Marked index (markedBy index marks act) :=
    marked.fewer (congrArg _ unmarked) (Crew.fetches_of_held held ticket)
      (Crew.attempts_of_held held ticket runners)
  have assigned {message : TaskMessage} {act : Option Act} (slots : Slots Party)
      (unmarked : markedBy index marks act = marks) (held : crew.loop.held? = some message) :
      (({ crew with slots := slots } : Crew).assign message).Marked index
        (markedBy index marks act) :=
    have after := Crew.attempts_after_assign held slots
    marked.fewer (congrArg _ unmarked) after.1 after.2
  cases move with
  | stopped loop | overdue loop | begun loop | queued loop =>
      exact still rfl (by simp [loop, LoopStage.held?]) rfl rfl
  | waiting => exact still rfl rfl rfl rfl
  | admitted loop => exact assigned _ rfl (by simp [loop, LoopStage.held?])
  | resumed loop => exact assigned _ rfl (by simp [loop, LoopStage.held?])
  | @answered _ _ answer fetching =>
      rcases answer with (error | _) | (_ | message)
      · exact still rfl (by simp [fetching, LoopStage.afterAnswer, LoopStage.held?]) rfl rfl
      · exact still rfl (by simp [fetching, LoopStage.afterAnswer, LoopStage.held?]) rfl rfl
      · exact still rfl (by simp [fetching, LoopStage.afterAnswer, LoopStage.held?]) rfl rfl
      · have tickets : fetchCount index marks = crew.nextTicket := by
          simpa [Crew.fetches, fetching, LoopStage.held?] using marked.counted
        constructor
        · rw [fetch_count_after_fetch, tickets]
          rfl
        · intro attempt member
          rw [markedBy, tickets]
          rcases List.mem_append.mp member with new | carried
          · rw [List.mem_singleton.mp new]
            exact List.mem_cons_self
          · exact List.mem_cons_of_mem _ (marked.carried attempt (List.mem_append_right _ carried))

theorem runner_move_marked {plant : Plant β η} {failure : FailureHandler Party β} {now : Moment}
    {state later : β} {handlers changed : η}
    (move : RunnerMove plant failure ticket draw now crew state handlers act next later changed)
    (marked : crew.Marked index marks) : next.Marked index (markedBy index marks act) := by
  cases move with
  | called found | handled found | completed found | failed found =>
      exact marked.fewer rfl rfl (Crew.attempts_after_set_runner found _)
  | retired =>
      refine marked.fewer rfl rfl fun attempt member => ?_
      rcases List.mem_append.mp member with held | carried
      · exact List.mem_append_left _ held
      · obtain ⟨runner, among, rfl⟩ := List.mem_map.mp carried
        exact List.mem_append_right _
          (List.mem_map_of_mem (f := fun _ => _) (List.mem_of_mem_filter among))

/-- Every move of a processor leaves its crew with attempts that have left their marks. -/
theorem service_move_marked {setting : Setting β η α} {processor later : Processor β}
    {state next : β} {handlers changed : η} {move : Move α}
    (moved : ServiceMove setting index processor state handlers move act later next changed)
    (sound : processor.Sound index) (marked : processor.crew.Marked index marks) :
    later.crew.Marked index (markedBy index marks act) := by
  have restored {answer : Except CallFailure Nat} {crew : Crew}
      (held : crew.loop.held? = processor.crew.loop.held?)
      (ticket : crew.nextTicket = processor.crew.nextTicket)
      (runners : crew.runners = processor.crew.runners) :
      crew.Marked index (markedBy index marks (some (.restored answer))) :=
    marked.fewer (List.countP_cons_of_neg (by simp [Mark.isFetchOf]))
      (Crew.fetches_of_held held ticket) (Crew.attempts_of_held held ticket runners)
  cases moved with
  | startRefused | terminationRefused | terminating | keptOn | dropped | acted =>
      exact ⟨marked.counted, marked.carried⟩
  | startPanicked => exact restored rfl rfl rfl
  | started created =>
      have idle := (sound.inPhase.unstarted created).1
      exact restored (by simp [idle, LoopStage.held?]) rfl rfl
  | dispatched move => exact loop_move_marked move marked
  | executed move => exact runner_move_marked move marked
  | closed step => cases step <;> exact ⟨marked.counted, marked.carried⟩

end Moves

theorem Processor.new_processor_empty_handed {β : Type} {config : ProcessorConfig}
    {failure : FailureHandler Party β} {processor : Processor β}
    (created : Processor.new? config failure = some processor) (index : Nat) :
    processor.crew.fetches = 0 ∧ processor.crew.attempts index = [] := by
  simp only [Processor.new?, Crew.new?, Option.map_map, Option.map_eq_some_iff] at created
  obtain ⟨slots, _, rfl⟩ := created
  exact ⟨rfl, rfl⟩

namespace Fleet

variable {η : Type} {origin fleet : Fleet η} {events : List FleetEvent} {marks : List Mark}

structure Marked (marks : List Mark) (fleet : Fleet η) : Prop where
  members : ∀ (index : Nat) (member : Processor (MemoryQueue Party)),
    fleet.members[index]? = some member →
      member.Sound index ∧ member.crew.Marked index marks
  nobody : ∀ index, fleet.members.length ≤ index → fetchCount index marks = 0

theorem marked_at_first (alone : origin.members = []) : origin.Marked [] where
  members := fun index member found => by simp [alone] at found
  nobody := fun _ _ => rfl

/-- Who joins has begun no attempt. -/
theorem marked_after_join {config : ProcessorConfig}
    {failure : FailureHandler Party (MemoryQueue Party)}
    {processor : Processor (MemoryQueue Party)}
    (created : Processor.new? config failure = some processor) (marked : fleet.Marked marks) :
    (fleet.join processor).Marked marks := by
  constructor
  case members =>
    intro index member found
    simp only [join, List.getElem?_append] at found
    split at found
    case isTrue => exact marked.members index member found
    case isFalse outside =>
      obtain rfl := List.mem_singleton.mp (List.mem_of_getElem? found)
      obtain ⟨unfetched, nothing⟩ := Processor.new_processor_empty_handed created index
      refine ⟨Processor.new_processor_sound created, ?_, ?_⟩
      · rw [marked.nobody index (Nat.le_of_not_lt outside), unfetched]
      · rw [nothing]
        exact fun attempt member => absurd member List.not_mem_nil
  case nobody =>
    intro index outside
    simp only [join, List.length_append, List.length_singleton] at outside
    exact marked.nobody index (by omega)

theorem marked_after_move {index : Nat} {member : Processor (MemoryQueue Party)}
    {later : Service (MemoryQueue Party) η} {handler : Handler η} {move : Move TaskMessage}
    (found : fleet.members[index]? = some member)
    (moved : (fleet.service member).after? (MemoryQueue.setting handler) index move = some later)
    (marked : fleet.Marked marks) :
    (fleet.advance index later).Marked
      (markedBy index marks
        ((fleet.service member).act? (MemoryQueue.setting handler) index move)) := by
  obtain ⟨sound, own⟩ := marked.members index member found
  constructor
  case members =>
    intro other processor present
    by_cases same : other = index
    · subst same
      obtain ⟨_, set⟩ := List.getElem?_eq_some_iff.mp present
      simp only [advance, List.getElem_set_self] at set
      rw [← set]
      exact
        ⟨Processor.service_step_sound (service_step_cases moved) sound,
          service_move_marked (service_move_cases moved) sound own⟩
    · simp only [advance, List.getElem?_set_ne (Ne.symm same)] at present
      obtain ⟨sound, before⟩ := marked.members other processor present
      exact ⟨sound, before.elsewhere same⟩
  case nobody =>
    intro other outside
    simp only [advance, List.length_set] at outside
    obtain ⟨inside, _⟩ := List.getElem?_eq_some_iff.mp found
    rw [fetch_count_elsewhere (by omega)]
    exact marked.nobody other outside

/-- On a voyage of those who join, everything in hand has left its mark. -/
theorem voyage_marked (voyage : Voyage origin events fleet) (alone : origin.members = []) :
    fleet.Marked (marksOf events) := by
  induction voyage with
  | begin => exact marked_at_first alone
  | join _ created ih =>
    rw [marks_concat]
    exact marked_after_join created ih
  | move _ handler found move moved ih =>
    rw [marks_concat]
    exact marked_after_move found moved ih

end Fleet

end TaskDispatch
