import TaskDispatch.Proofs.Worker.Passage

/-!
# Fleets

Any number of processors work on one queue in memory. They join one after the other and stay: one
that is dropped or terminated is still there with its runners. A voyage is any sequence of joins and
of moves of the members, with whatever handlers, together with the acts that were done on the way.
The index of a processor is its place among the members.
-/

namespace TaskDispatch

set_option autoImplicit false

/-- Processors on one queue, in the order in which they joined, and the state that all share. -/
structure Fleet (η : Type) where
  members : List (Processor (MemoryQueue Party))
  shared : Shared (MemoryQueue Party) η

/-- A processor joined, or the one with an index made a move with an act. -/
inductive FleetEvent where
  | joined
  | moved (index : Nat) (move : Move TaskMessage) (act : Option Act)

namespace FleetEvent

def act? : FleetEvent → Option Act
  | .joined => none
  | .moved _ _ act => act

def isEnqueue : FleetEvent → Bool
  | .moved _ (.outside _) _ => true
  | _ => false

end FleetEvent

namespace Fleet

variable {η : Type}

def solo (service : Service (MemoryQueue Party) η) : Fleet η where
  members := [service.processor]
  shared := service.shared

def service (fleet : Fleet η) (member : Processor (MemoryQueue Party)) :
    Service (MemoryQueue Party) η where
  processor := member
  shared := fleet.shared

/-- Where the loop of the member with an index is. No loop has started where there is none. -/
def loopOf (fleet : Fleet η) (index : Nat) : LoopStage :=
  match fleet.members[index]? with
  | none => .idle
  | some member => member.crew.loop

def join (fleet : Fleet η) (processor : Processor (MemoryQueue Party)) : Fleet η :=
  { fleet with members := fleet.members ++ [processor] }

def advance (fleet : Fleet η) (index : Nat) (later : Service (MemoryQueue Party) η) : Fleet η where
  members := fleet.members.set index later.processor
  shared := later.shared

inductive Voyage (origin : Fleet η) : List FleetEvent → Fleet η → Prop where
  | begin : Voyage origin [] origin
  | join {events : List FleetEvent} {fleet : Fleet η} {config : ProcessorConfig}
      {failure : FailureHandler Party (MemoryQueue Party)}
      {processor : Processor (MemoryQueue Party)} (voyage : Voyage origin events fleet)
      (created : Processor.new? config failure = some processor) :
      Voyage origin (events ++ [.joined]) (fleet.join processor)
  | move {events : List FleetEvent} {fleet : Fleet η} {index : Nat}
      {member : Processor (MemoryQueue Party)} {later : Service (MemoryQueue Party) η}
      (voyage : Voyage origin events fleet) (handler : Handler η)
      (found : fleet.members[index]? = some member) (move : Move TaskMessage)
      (moved : (fleet.service member).after? (MemoryQueue.setting handler) index move =
        some later) :
      Voyage origin
        (events ++
          [.moved index move
            ((fleet.service member).act? (MemoryQueue.setting handler) index move)])
        (fleet.advance index later)

inductive Order where
  | join (config : ProcessorConfig) (failure : FailureHandler Party (MemoryQueue Party))
  | move (index : Nat) (move : Move TaskMessage)

def run (handler : Handler η) : List Order → Fleet η → Option (List FleetEvent × Fleet η)
  | [], fleet => some ([], fleet)
  | .join config failure :: orders, fleet => do
      let processor ← Processor.new? config failure
      let (events, last) ← run handler orders (fleet.join processor)
      some (.joined :: events, last)
  | .move index move :: orders, fleet => do
      let member ← fleet.members[index]?
      let later ← (fleet.service member).after? (MemoryQueue.setting handler) index move
      let (events, last) ← run handler orders (fleet.advance index later)
      some
        (.moved index move
            ((fleet.service member).act? (MemoryQueue.setting handler) index move) :: events,
          last)

/-- A run that can be computed continues a voyage. -/
theorem voyage_of_run {handler : Handler η} {orders : List Order} {origin fleet last : Fleet η}
    {past events : List FleetEvent} (voyage : Voyage origin past fleet)
    (ran : fleet.run handler orders = some (events, last)) :
    Voyage origin (past ++ events) last := by
  induction orders generalizing past fleet events with
  | nil =>
      simp only [run, Option.some.injEq, Prod.mk.injEq] at ran
      rw [← ran.1, ← ran.2, List.append_nil]
      exact voyage
  | cons order orders ih =>
      cases order with
      | join config failure =>
          simp only [run, Option.bind_eq_bind, Option.bind_eq_some_iff, Prod.exists,
            Option.some.injEq, Prod.mk.injEq] at ran
          obtain ⟨processor, created, rest, _, ranOn, rfl, rfl⟩ := ran
          rw [List.append_cons]
          exact ih (voyage.join created) ranOn
      | move index move =>
          simp only [run, Option.bind_eq_bind, Option.bind_eq_some_iff, Prod.exists,
            Option.some.injEq, Prod.mk.injEq] at ran
          obtain ⟨member, found, later, moved, rest, _, ranOn, rfl, rfl⟩ := ran
          rw [List.append_cons]
          exact ih (voyage.move handler found move moved) ranOn

variable {fleet : Fleet η} {index other : Nat} {member processor : Processor (MemoryQueue Party)}
  {later : Service (MemoryQueue Party) η}

theorem loop_of_member (found : fleet.members[index]? = some member) :
    fleet.loopOf index = member.crew.loop := by
  rw [loopOf, found]

/-- Who joins has not started a loop. -/
theorem loop_after_join (fleet : Fleet η) (idle : processor.crew.loop = .idle) (index : Nat) :
    (fleet.join processor).loopOf index = fleet.loopOf index := by
  simp only [loopOf, join]
  by_cases before : index < fleet.members.length
  · rw [List.getElem?_append_left before]
  · have outside : fleet.members[index]? = none := List.getElem?_eq_none (Nat.le_of_not_lt before)
    rw [List.getElem?_append_right (Nat.le_of_not_lt before), outside]
    cases new : [processor][index - fleet.members.length]? with
    | none => rfl
    | some found =>
        obtain rfl := List.mem_singleton.mp (List.mem_of_getElem? new)
        exact idle

theorem loop_after_own_move (found : fleet.members[index]? = some member) :
    (fleet.advance index later).loopOf index = later.processor.crew.loop := by
  obtain ⟨inside, _⟩ := List.getElem?_eq_some_iff.mp found
  simp only [loopOf, advance, List.getElem?_set_self inside]

theorem loop_after_other_move (fleet : Fleet η) (differs : other ≠ index) :
    (fleet.advance index later).loopOf other = fleet.loopOf other := by
  simp only [loopOf, advance, List.getElem?_set_ne differs.symm]

/-- What is true of every member and of who joins is true of all members then. -/
theorem members_after_join {holds : Nat → Processor (MemoryQueue Party) → Prop}
    (before : ∀ index member, fleet.members[index]? = some member → holds index member)
    (new : ∀ index, holds index processor) :
    ∀ index member, (fleet.join processor).members[index]? = some member →
      holds index member := by
  intro index member found
  simp only [join, List.getElem?_append] at found
  split at found
  · exact before index member found
  · obtain rfl := List.mem_singleton.mp (List.mem_of_getElem? found)
    exact new index

theorem members_after_move {holds : Nat → Processor (MemoryQueue Party) → Prop}
    (before : ∀ index member, fleet.members[index]? = some member → holds index member)
    (own : holds index later.processor) :
    ∀ other member, (fleet.advance index later).members[other]? = some member →
      holds other member := by
  intro other member found
  by_cases same : other = index
  · subst same
    obtain ⟨_, set⟩ := List.getElem?_eq_some_iff.mp found
    simp only [advance, List.getElem_set_self] at set
    rw [← set]
    exact own
  · simp only [advance, List.getElem?_set_ne (Ne.symm same)] at found
    exact before other member found

end Fleet

end TaskDispatch
