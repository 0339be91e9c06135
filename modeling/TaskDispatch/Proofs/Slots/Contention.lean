import TaskDispatch.Proofs.Slots.Balance

/-!
# Drains in each other's way

A drain keeps the slots it has while it waits for the next one, and its next request stands at the
end of the line. Two drains that overlap can so end up with a part of the budget each and wait for
each other for good; the run that does it is given below.

The main statement says that nothing else can go wrong. Calls act only finitely often until each
of them waits. If all slots outside of drains have come back by then, no call waits at all, or the
whole budget is split among drains, of which at least two have a part.
-/

namespace TaskDispatch

set_option autoImplicit false

namespace SlotCall

variable {capacity : Nat} {call : SlotCall}

def isDrain (call : SlotCall) : Bool :=
  match call.goal with
  | .one => false
  | .all _ => true

def missing (capacity : Nat) (call : SlotCall) : Nat :=
  match call.goal with
  | .one => 1
  | .all gathered => capacity - gathered

/-- A bound on how often a call can still act: it asks for each missing slot and takes it up. -/
def effort (capacity : Nat) (call : SlotCall) : Nat :=
  2 * call.missing capacity - (if call.queued then 1 else 0)

theorem is_drain_of_gathered (some : 0 < call.gathered) : call.isDrain = true := by
  cases goal : call.goal with
  | one => simp [gathered, goal] at some
  | all count => simp [isDrain, goal]

theorem missing_pos (partly : call.gathered < capacity) : 0 < call.missing capacity := by
  cases goal : call.goal with
  | one => simp [missing, goal]
  | all count =>
      simp only [gathered, goal] at partly
      simp only [missing, goal]
      omega

theorem effort_pos (partly : call.gathered < capacity) : 0 < call.effort capacity := by
  have missing := missing_pos partly
  unfold effort
  split <;> omega

end SlotCall

namespace SlotDesk

variable {capacity ticket : Nat} {desk next : SlotDesk} {call : SlotCall}

def Settled (desk : SlotDesk) : Prop := ∀ call ∈ desk.calls, desk.advance call.ticket = none

instance (desk : SlotDesk) : Decidable desk.Settled :=
  inferInstanceAs (Decidable (∀ call ∈ desk.calls, desk.advance call.ticket = none))

/-- Every slot outside of unfinished drains has been given back. -/
structure Returned (desk : SlotDesk) : Prop where
  hands_empty : desk.holders = []
  none_drained : desk.drained = []

/-- All slots are with unfinished drains, of which at least two have some. -/
structure Split (capacity : Nat) (desk : SlotDesk) : Prop where
  all_gathered : gatheredBy desk.calls = capacity
  several : ∃ first ∈ desk.calls, ∃ second ∈ desk.calls, first.ticket ≠ second.ticket ∧
    first.isDrain = true ∧ second.isDrain = true ∧ 0 < first.gathered ∧ 0 < second.gathered

def effort (capacity : Nat) (desk : SlotDesk) : Nat :=
  (desk.calls.map (SlotCall.effort capacity)).sum

def actInTurn (tickets : List Nat) (desk : SlotDesk) : Option SlotDesk :=
  tickets.foldlM (fun desk ticket => desk.advance ticket) desk

/-- The calls of a desk settle. Where all slots outside of drains have come back by then, nothing
waits, or the budget is split among drains. One drain alone ends. -/
structure Contention (capacity : Nat) (desk : SlotDesk) : Prop where
  settles : ∀ tickets next, desk.actInTurn tickets = some next →
    next.effort capacity + tickets.length ≤ desk.effort capacity
  blocked : desk.Settled → desk.Returned → desk.calls = [] ∨ desk.Split capacity
  one_drain_ends : desk.Settled → desk.Returned →
    (∀ first ∈ desk.calls, ∀ second ∈ desk.calls, first.isDrain = true → second.isDrain = true →
      first.ticket = second.ticket) → desk.calls = []

theorem effort_around (capacity : Nat) {calls others : List SlotCall}
    (same : calls.Perm (call :: others)) :
    (calls.map (SlotCall.effort capacity)).sum =
      call.effort capacity + (others.map (SlotCall.effort capacity)).sum := by
  rw [(same.map (SlotCall.effort capacity)).sum_eq, List.map_cons, List.sum_cons]

/-- A call that is handed a slot is over, or misses one slot less. -/
theorem effort_after_deliver (orderly : desk.Orderly capacity)
    (found : desk.callOf? call.ticket = some call) {taken : Slots Nat}
    (size : taken.capacity = capacity) :
    (({ desk with slots := taken } : SlotDesk).deliver call).effort capacity <
      desk.effort capacity := by
  have member : call ∈ desk.calls := List.mem_of_find?_eq_some found
  have own := SlotCall.effort_pos (orderly.partly call member)
  have before := effort_around capacity (calls_around found orderly.distinct)
  have without : (desk.endCall call.ticket).effort capacity < desk.effort capacity := by
    rw [effort, effort, before]
    exact Nat.lt_add_of_pos_left own
  cases goal : call.goal with
  | one =>
      simp only [deliver, goal]
      exact without
  | all count =>
      by_cases more : count + 1 < taken.capacity
      · let oneMore : SlotCall := { call with goal := .all (count + 1), queued := false }
        have ownTicket : oneMore.ticket = call.ticket := rfl
        have after := effort_around capacity (set_call_around found orderly.distinct ownTicket)
        have less : oneMore.effort capacity < call.effort capacity := by
          simp only [oneMore, SlotCall.effort, SlotCall.missing, goal, Bool.false_eq_true,
            if_false]
          split <;> omega
        simp only [deliver, goal, if_pos more]
        exact lt_of_eq_of_lt after (lt_of_lt_of_eq (Nat.add_lt_add_right less _) before.symm)
      · simp only [deliver, goal, if_neg more]
        exact without

theorem effort_after_advance (orderly : desk.Orderly capacity)
    (step : desk.advance ticket = some next) : next.effort capacity < desk.effort capacity := by
  obtain ⟨call, found, taken⟩ := advance_cases step
  obtain rfl := ticket_of_call found
  have size := orderly.size
  rcases taken with ⟨_, _, rfl⟩ | ⟨_, _, rfl⟩ | ⟨unqueued, _, rfl⟩
  · exact effort_after_deliver orderly found size
  · exact effort_after_deliver orderly found size
  · have member : call ∈ desk.calls := List.mem_of_find?_eq_some found
    have own := SlotCall.effort_pos (orderly.partly call member)
    have before := effort_around capacity (calls_around found orderly.distinct)
    let inLine : SlotCall := { call with queued := true }
    have ownTicket : inLine.ticket = call.ticket := rfl
    have after := effort_around capacity (set_call_around found orderly.distinct ownTicket)
    have less : inLine.effort capacity < call.effort capacity := by
      have asks : call.effort capacity = 2 * call.missing capacity := by
        simp [SlotCall.effort, unqueued]
      rw [asks] at own ⊢
      exact Nat.sub_lt own Nat.one_pos
    exact lt_of_eq_of_lt after (lt_of_lt_of_eq (Nat.add_lt_add_right less _) before.symm)

theorem effort_after_acting (orderly : desk.Orderly capacity) {tickets : List Nat}
    (acts : desk.actInTurn tickets = some next) :
    next.effort capacity + tickets.length ≤ desk.effort capacity := by
  induction tickets generalizing desk with
  | nil =>
      obtain rfl : desk = next := by simpa [actInTurn] using acts
      exact Nat.le_refl _
  | cons ticket later ih =>
      simp only [actInTurn, List.foldlM_cons] at acts
      obtain ⟨between, step, rest⟩ := Option.bind_eq_some_iff.mp acts
      have first := effort_after_advance orderly step
      have remaining := ih (advance_orderly orderly step) rest
      rw [List.length_cons]
      omega

/-- Where every call waits, no granted slot is left to take up. -/
theorem none_granted (orderly : desk.Orderly capacity) (settled : desk.Settled) :
    desk.slots.granted = [] := by
  apply List.eq_nil_iff_forall_not_mem.mpr
  intro ticket granted
  have listed := orderly.line.mem_iff.mp (List.mem_append_right desk.slots.waiting granted)
  obtain ⟨call, waits, rfl⟩ := List.mem_map.mp listed
  obtain ⟨member, queued⟩ := List.mem_filter.mp waits
  have stuck := settled call member
  simp [advance, orderly.found member, queued, Slots.takeGranted?, granted] at stuck

/-- A drain does not gather all slots: with the last one it ends. -/
theorem another_has_gathered (orderly : desk.Orderly capacity)
    (all : gatheredBy desk.calls = capacity) (member : call ∈ desk.calls) :
    ∃ other ∈ desk.calls, call.ticket ≠ other.ticket ∧ 0 < other.gathered := by
  have around := calls_around (orderly.found member) orderly.distinct
  have sum : gatheredBy desk.calls = call.gathered + gatheredBy (desk.others call.ticket) := by
    rw [gatheredBy, (around.map SlotCall.gathered).sum_eq, List.map_cons, List.sum_cons, gatheredBy]
  have partly := orderly.partly call member
  have rest : 0 < gatheredBy (desk.others call.ticket) := by omega
  obtain ⟨gathered, listed, some⟩ := List.sum_pos_iff_exists_pos_nat.mp rest
  obtain ⟨other, elsewhere, rfl⟩ := List.mem_map.mp listed
  obtain ⟨present, differs⟩ := List.mem_filter.mp elsewhere
  refine ⟨other, present, ?_, some⟩
  intro same
  simp [same] at differs

theorem split_when_blocked (orderly : desk.Orderly capacity) (positive : 0 < capacity)
    (settled : desk.Settled) (returned : desk.Returned) :
    desk.calls = [] ∨ desk.Split capacity := by
  cases calls : desk.calls with
  | nil => exact .inl rfl
  | cons waiting others =>
      right
      have waits : waiting ∈ desk.calls := by
        rw [calls]
        exact List.mem_cons_self
      have full := orderly.eager waits (settled waiting waits)
      have accounted := orderly.accounted
      have all : gatheredBy desk.calls = capacity := by
        simp only [full, none_granted orderly settled, outside, returned.hands_empty,
          returned.none_drained, List.length_nil] at accounted
        omega
      have some : 0 < gatheredBy desk.calls := by omega
      obtain ⟨gathered, listed, some⟩ := List.sum_pos_iff_exists_pos_nat.mp some
      obtain ⟨first, member, rfl⟩ := List.mem_map.mp listed
      obtain ⟨second, present, differs, others⟩ := another_has_gathered orderly all member
      exact ⟨all, first, member, second, present, differs, SlotCall.is_drain_of_gathered some,
        SlotCall.is_drain_of_gathered others, some, others⟩

/-- Whatever the callers of a budget do, their calls settle. Once all slots outside of unfinished
drains have come back, no call is left waiting unless at least two drains have split the budget
among them. -/
theorem drains_end_unless_split (capacity : Nat) (positive : 0 < capacity) (desk : SlotDesk)
    (opened : new? capacity = some desk) (moves : List DeskMove) :
    (desk.run moves).Contention capacity := by
  have orderly := run_orderly (new_orderly opened) positive moves
  constructor
  · intro tickets next acts
    exact effort_after_acting orderly acts
  · intro settled returned
    exact split_when_blocked orderly positive settled returned
  · intro settled returned alone
    rcases split_when_blocked orderly positive settled returned with none | split
    · exact none
    · obtain ⟨first, member, second, present, differs, drains, alsoDrains, _⟩ := split.several
      exact absurd (alone first member second present drains alsoDrains) differs

/-- Two slots are taken, two drains wait for them. Each slot that comes back goes to another drain,
which then waits behind the other one for the second slot. -/
def overlappingDrains : List DeskMove :=
  [.acquire, .advance 0, .acquire, .advance 1, .drain, .advance 2, .drain, .advance 3,
    .giveBack 0, .advance 2, .advance 2, .giveBack 1, .advance 3, .advance 3]

theorem overlapping_drains_in_contention :
    ∃ desk, 0 < 2 ∧ new? 2 = some desk ∧ (desk.run overlappingDrains).Contention 2 :=
  ⟨_, by decide, rfl, drains_end_unless_split 2 (by decide) _ rfl overlappingDrains⟩

/-- All slots have come back, and both drains wait for good. -/
theorem overlapping_drains_block_each_other :
    ∃ desk, new? 2 = some desk ∧ (desk.run overlappingDrains).Settled ∧
      (desk.run overlappingDrains).Returned ∧
      ∃ call ∈ (desk.run overlappingDrains).calls, call.isDrain = true :=
  ⟨_, rfl, by decide, ⟨rfl, rfl⟩, by decide⟩

end SlotDesk

end TaskDispatch
