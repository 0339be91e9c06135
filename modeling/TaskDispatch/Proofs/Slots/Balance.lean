import TaskDispatch.Proofs.Slots.Desk

/-!
# The balance of a budget of slots

The main statement is about every budget and any moves at its desk. Held slots and free ones are
together the capacity, what is reported as in flight is what is held, and no call waits while a
slot is free. A drain that ends has all slots, so that none is held elsewhere until they are given
back, and a call that is cancelled gives back all it has gathered.
-/

namespace TaskDispatch

set_option autoImplicit false

namespace SlotDesk

variable {capacity ticket : Nat} {desk next : SlotDesk} {call : SlotCall}

/-- A finished drain has all slots: no other is held, granted, gathered or free. -/
structure HeldWhole (desk : SlotDesk) (ticket : Nat) : Prop where
  alone : desk.drained = [ticket]
  none_in_hand : desk.holders = []
  none_granted : desk.slots.granted = []
  none_gathered : ∀ call ∈ desk.calls, call.gathered = 0
  none_free : desk.slots.free = 0

/-- A call is gone with its request, and what it had gathered is free or granted to others. -/
structure GivenUp (call : SlotCall) (desk next : SlotDesk) : Prop where
  gone : next.calls = desk.others call.ticket
  withdrawn : call.ticket ∉ next.slots.waiting ++ next.slots.granted
  given_back : next.slots.free + next.slots.granted.length =
    desk.slots.free + desk.slots.granted.length + call.gathered
  hands_kept : next.holders = desk.holders
  drained_kept : next.drained = desk.drained

structure Balance (capacity : Nat) (desk : SlotDesk) : Prop where
  capacity_kept : desk.slots.capacity = capacity
  conserved : desk.held + desk.slots.free = capacity
  no_underflow : desk.slots.free ≤ desk.slots.capacity
  in_flight : desk.slots.inFlight = desk.held
  ceiling : desk.slots.inFlight ≤ capacity
  eager : ∀ call ∈ desk.calls, desk.advance call.ticket = none → desk.slots.free = 0
  resolves : ∀ ticket next, desk.advance ticket = some next → ticket ∉ desk.drained →
    ticket ∈ next.drained →
      (∃ call ∈ desk.calls, call.ticket = ticket ∧ call.gathered + 1 = capacity) ∧
        next.HeldWhole ticket
  exclusive : ∀ ticket ∈ desk.drained, desk.HeldWhole ticket
  kept_until_given_back : ∀ ticket ∈ desk.drained, ∀ move, move ≠ .giveBack ticket →
    move ≠ .unpack ticket → ticket ∈ (desk.after move).drained
  given_back : ∀ ticket ∈ desk.drained, (desk.giveBack ticket).1.drained = [] ∧
    (desk.giveBack ticket).1.slots.free + (desk.giveBack ticket).1.slots.granted.length = capacity
  given_up : ∀ call ∈ desk.calls, GivenUp call desk (desk.cancel call.ticket).1

theorem Orderly.conserved (orderly : desk.Orderly capacity) :
    desk.held + desk.slots.free = capacity := by
  have accounted := orderly.accounted
  rw [held]
  omega

theorem Orderly.found (orderly : desk.Orderly capacity) (member : call ∈ desk.calls) :
    desk.callOf? call.ticket = some call :=
  found_of_member orderly.distinct member

theorem Orderly.eager (orderly : desk.Orderly capacity) (member : call ∈ desk.calls)
    (stuck : desk.advance call.ticket = none) : desk.slots.free = 0 := by
  have found := orderly.found member
  cases queued : call.queued with
  | false =>
      -- a request that is not in the line is always made
      by_cases given : (Slots.request call.ticket desk.slots).2
      · simp [advance, found, queued, given] at stuck
      · simp [advance, found, queued, given] at stuck
  | true =>
      apply SlotBooks.full_of_ungranted orderly member queued
      intro granted
      simp [advance, found, queued, Slots.takeGranted?, granted] at stuck

theorem Orderly.held_whole (orderly : desk.Orderly capacity) (positive : 0 < capacity)
    (drained : ticket ∈ desk.drained) : desk.HeldWhole ticket := by
  have accounted := orderly.accounted
  rw [outside_of_drained drained, orderly.size] at accounted
  have noOther : (desk.drained.erase ticket).length * capacity = 0 := by omega
  have rest : desk.drained.erase ticket = [] := by
    rcases Nat.mul_eq_zero.mp noOther with none | none
    · exact List.eq_nil_of_length_eq_zero none
    · omega
  constructor
  · have around := List.perm_cons_erase drained
    rw [rest] at around
    exact List.perm_singleton.mp around
  · exact List.eq_nil_of_length_eq_zero (by omega)
  · exact List.eq_nil_of_length_eq_zero (by omega)
  · have nothing : gatheredBy desk.calls = 0 := by omega
    intro call member
    exact List.sum_eq_zero_iff_forall_eq_nat.mp nothing _ (List.mem_map_of_mem member)
  · omega

/-- A drain ends only with the last of the slots. -/
theorem drained_after_deliver (drained : ticket ∈ (desk.deliver call).drained) :
    ticket ∈ desk.drained ∨ (call.ticket = ticket ∧ desk.slots.capacity ≤ call.gathered + 1) := by
  cases goal : call.goal with
  | one =>
      simp only [deliver, goal, endCall] at drained
      exact .inl drained
  | all gathered =>
      by_cases more : gathered + 1 < desk.slots.capacity
      · simp only [deliver, goal, if_pos more, setCall] at drained
        exact .inl drained
      · simp only [deliver, goal, if_neg more, endCall, List.mem_append,
          List.mem_singleton] at drained
        rcases drained with before | rfl
        · exact .inl before
        · right
          simp only [SlotCall.gathered, goal]
          exact ⟨trivial, Nat.le_of_not_lt more⟩

theorem drained_kept_by_deliver (drained : ticket ∈ desk.drained) :
    ticket ∈ (desk.deliver call).drained := by
  unfold deliver
  split
  · exact drained
  · split
    · exact drained
    · exact List.mem_append_left _ drained

theorem Orderly.resolves (orderly : desk.Orderly capacity) (positive : 0 < capacity)
    (step : desk.advance ticket = some next) (unfinished : ticket ∉ desk.drained)
    (finished : ticket ∈ next.drained) :
    (∃ call ∈ desk.calls, call.ticket = ticket ∧ call.gathered + 1 = capacity) ∧
      next.HeldWhole ticket := by
  refine ⟨?_, (advance_orderly orderly step).held_whole positive finished⟩
  obtain ⟨call, found, taken⟩ := advance_cases step
  have member : call ∈ desk.calls := List.mem_of_find?_eq_some found
  refine ⟨call, member, ticket_of_call found, ?_⟩
  have partly := orderly.partly call member
  have size := orderly.size
  rcases taken with ⟨_, _, rfl⟩ | ⟨_, _, rfl⟩ | ⟨_, _, rfl⟩
  · rcases drained_after_deliver finished with before | ⟨_, last⟩
    · exact absurd before unfinished
    · simp only at last
      omega
  · rcases drained_after_deliver finished with before | ⟨_, last⟩
    · exact absurd before unfinished
    · simp only at last
      omega
  · exact absurd finished unfinished

theorem drained_until_given_back (drained : ticket ∈ desk.drained) {move : DeskMove}
    (keeps : move ≠ .giveBack ticket) (whole : move ≠ .unpack ticket) :
    ticket ∈ (desk.after move).drained := by
  cases move with
  | acquire => exact drained
  | drain =>
      simp only [after]
      split <;> exact drained
  | advance other =>
      simp only [after]
      cases step : desk.advance other with
      | none => exact drained
      | some next =>
          obtain ⟨call, _, taken⟩ := advance_cases step
          rcases taken with ⟨_, _, rfl⟩ | ⟨_, _, rfl⟩ | ⟨_, _, rfl⟩
          · exact drained_kept_by_deliver drained
          · exact drained_kept_by_deliver drained
          · exact drained
  | giveBack other =>
      have differs : ticket ≠ other := fun same => keeps (by rw [same])
      simp only [after, giveBack]
      split
      · exact drained
      · split
        · exact (List.mem_erase_of_ne differs).mpr drained
        · exact drained
  | cancel other =>
      simp only [after, cancel]
      cases desk.callOf? other <;> exact drained
  | unpack other =>
      have differs : ticket ≠ other := fun same => whole (by rw [same])
      simp only [after, unpack]
      split
      · exact (List.mem_erase_of_ne differs).mpr drained
      · cases desk.callOf? other <;> exact drained

theorem Orderly.given_back (orderly : desk.Orderly capacity) (positive : 0 < capacity)
    (drained : ticket ∈ desk.drained) :
    (desk.giveBack ticket).1.drained = [] ∧
      (desk.giveBack ticket).1.slots.free + (desk.giveBack ticket).1.slots.granted.length =
        capacity := by
  have whole := orderly.held_whole positive drained
  have unheld : ticket ∉ desk.holders := by simp [whole.none_in_hand]
  simp only [giveBack, if_neg unheld, if_pos drained]
  constructor
  · simp [whole.alone]
  · rw [Slots.release_many_accounted, whole.none_free, whole.none_granted, orderly.size]
    simp

theorem Orderly.given_up (orderly : desk.Orderly capacity) (member : call ∈ desk.calls) :
    GivenUp call desk (desk.cancel call.ticket).1 := by
  have found := orderly.found member
  have books := cancel_orderly orderly call.ticket
  rw [cancel_of_found found] at books ⊢
  constructor
  · rfl
  · intro listed
    have inLine := books.line.mem_iff.mp listed
    obtain ⟨other, waits, same⟩ := List.mem_map.mp inLine
    have differs := (List.mem_filter.mp (List.mem_of_mem_filter waits)).2
    simp [same] at differs
  · simp only [endCall]
    rw [Slots.release_many_accounted]
    cases call.queued
    · rfl
    · simp only [if_true, Slots.cancel_accounted]
  · rfl
  · rfl

/-- Whatever the callers of a budget do, in any order: held and free slots make up the capacity,
what is in flight is what is held, nobody waits while a slot is free, a finished drain has all slots
until they are given back, and a cancelled call gives back what it has gathered. -/
theorem slots_balance (capacity : Nat) (positive : 0 < capacity) (desk : SlotDesk)
    (opened : new? capacity = some desk) (moves : List DeskMove) :
    (desk.run moves).Balance capacity := by
  have orderly := run_orderly (new_orderly opened) positive moves
  have conserved := orderly.conserved
  have size := orderly.size
  constructor
  · exact size
  · exact conserved
  · omega
  · rw [Slots.inFlight]
    omega
  · rw [Slots.inFlight]
    omega
  · intro call member
    exact orderly.eager member
  · intro ticket next step unfinished finished
    exact orderly.resolves positive step unfinished finished
  · intro ticket drained
    exact orderly.held_whole positive drained
  · intro ticket drained move keeps whole
    exact drained_until_given_back drained keeps whole
  · intro ticket drained
    exact orderly.given_back positive drained
  · intro call member
    exact orderly.given_up member

/-- A slot is taken, a drain gathers the other one and waits, a third caller waits behind it; the
slot that is given back is granted to the drain, which ends. -/
def drainBehindHolder : List DeskMove :=
  [.acquire, .advance 0, .drain, .advance 1, .advance 1, .acquire, .advance 2, .giveBack 0,
    .advance 1]

theorem drain_behind_holder_balances :
    ∃ desk, 0 < 2 ∧ new? 2 = some desk ∧ (desk.run drainBehindHolder).drained = [1] ∧
      (desk.run drainBehindHolder).slots.waiting = [2] ∧
      (desk.run drainBehindHolder).Balance 2 :=
  ⟨_, by decide, rfl, rfl, rfl, slots_balance 2 (by decide) _ rfl drainBehindHolder⟩

end SlotDesk

end TaskDispatch
