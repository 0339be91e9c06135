import Mathlib.Algebra.BigOperators.Group.List.Basic
import Mathlib.Algebra.GroupWithZero.Nat
import TaskDispatch.Proofs.Entries
import TaskDispatch.Proofs.Slots.Line
import TaskDispatch.Slots.Calls

/-!
# The books of a budget of slots

Everything that callers can do with a budget of slots, in any order: call for one slot or for all,
let a call act, give slots back, cancel a call, and take the slots of a drain apart to give them
back one by one. All who share a budget use the same desk.

The books add up at every moment: the free slots, those granted to requests that have not resumed,
those gathered by unfinished drains and those held outside of calls are all the slots there are.
One lemma for each thing that happens to the books gives one for each move, and by induction they
add up after any moves.
-/

namespace TaskDispatch

set_option autoImplicit false

def SlotCall.gathered (call : SlotCall) : Nat :=
  match call.goal with
  | .one => 0
  | .all gathered => gathered

def gatheredBy (calls : List SlotCall) : Nat := (calls.map SlotCall.gathered).sum

def inLine (calls : List SlotCall) : List Nat := (calls.filter SlotCall.queued).map SlotCall.ticket

/-- The books of `capacity` slots: `outside` of them are held by nobody who is in a call. -/
structure SlotBooks (capacity : Nat) (slots : Slots Nat) (next : Nat) (calls : List SlotCall)
    (outside : Nat) : Prop where
  size : slots.capacity = capacity
  accounted : slots.free + slots.granted.length + gatheredBy calls + outside = capacity
  line : (slots.waiting ++ slots.granted).Perm (inLine calls)
  prompt : slots.Prompt
  distinct : (calls.map SlotCall.ticket).Nodup
  given : ∀ call ∈ calls, call.ticket < next
  partly : ∀ call ∈ calls, call.gathered < capacity

namespace SlotBooks

variable {capacity next outside : Nat} {slots : Slots Nat} {calls others : List SlotCall}
  {call : SlotCall}

theorem perm (books : SlotBooks capacity slots next calls outside) (same : calls.Perm others) :
    SlotBooks capacity slots next others outside where
  size := books.size
  accounted := by
    have sums : gatheredBy others = gatheredBy calls := (same.map SlotCall.gathered).symm.sum_eq
    rw [sums]
    exact books.accounted
  line := books.line.trans ((same.filter SlotCall.queued).map SlotCall.ticket)
  prompt := books.prompt
  distinct := (same.map SlotCall.ticket).nodup_iff.mp books.distinct
  given := fun other member => books.given other (same.mem_iff.mpr member)
  partly := fun other member => books.partly other (same.mem_iff.mpr member)

theorem others_distinct (books : SlotBooks capacity slots next (call :: others) outside) :
    (others.map SlotCall.ticket).Nodup := by
  have distinct := books.distinct
  rw [List.map_cons, List.nodup_cons] at distinct
  exact distinct.2

theorem ticket_alone (books : SlotBooks capacity slots next (call :: others) outside) :
    call.ticket ∉ others.map SlotCall.ticket := by
  have distinct := books.distinct
  rw [List.map_cons, List.nodup_cons] at distinct
  exact distinct.1

/-- A call whose request is not in the line goes with what it has gathered. -/
theorem leave (books : SlotBooks capacity slots next (call :: others) outside)
    (unqueued : call.queued = false) :
    SlotBooks capacity slots next others (outside + call.gathered) where
  size := books.size
  accounted := by
    have accounted := books.accounted
    simp only [gatheredBy, List.map_cons, List.sum_cons] at accounted ⊢
    omega
  line := by
    have line := books.line
    rwa [inLine, List.filter_cons_of_neg (by simp [unqueued])] at line
  prompt := books.prompt
  distinct := books.others_distinct
  given := fun other member => books.given other (List.mem_cons_of_mem call member)
  partly := fun other member => books.partly other (List.mem_cons_of_mem call member)

theorem join (books : SlotBooks capacity slots next others (outside + call.gathered))
    (unqueued : call.queued = false) (alone : call.ticket ∉ others.map SlotCall.ticket)
    (given : call.ticket < next) (partly : call.gathered < capacity) :
    SlotBooks capacity slots next (call :: others) outside where
  size := books.size
  accounted := by
    have accounted := books.accounted
    simp only [gatheredBy, List.map_cons, List.sum_cons] at accounted ⊢
    omega
  line := by
    rw [inLine, List.filter_cons_of_neg (by simp [unqueued])]
    exact books.line
  prompt := books.prompt
  distinct := by
    rw [List.map_cons, List.nodup_cons]
    exact ⟨alone, books.distinct⟩
  given := List.forall_mem_cons.mpr ⟨given, books.given⟩
  partly := List.forall_mem_cons.mpr ⟨partly, books.partly⟩

theorem later_tickets (books : SlotBooks capacity slots next calls outside) {later : Nat}
    (bound : next ≤ later) : SlotBooks capacity slots later calls outside where
  size := books.size
  accounted := books.accounted
  line := books.line
  prompt := books.prompt
  distinct := books.distinct
  given := fun call member => Nat.lt_of_lt_of_le (books.given call member) bound
  partly := books.partly

/-- The line without a call whose request is in it. -/
theorem line_of_others (books : SlotBooks capacity slots next (call :: others) outside)
    (queued : call.queued = true) :
    (slots.waiting ++ slots.granted).Perm (call.ticket :: inLine others) := by
  have line := books.line
  rwa [inLine, List.filter_cons_of_pos queued, List.map_cons] at line

/-- A call takes up the slot that its request was granted. -/
theorem resume (books : SlotBooks capacity slots next (call :: others) outside)
    (queued : call.queued = true) (granted : call.ticket ∈ slots.granted) :
    SlotBooks capacity { slots with granted := slots.granted.erase call.ticket } next others
      (outside + call.gathered + 1) where
  size := books.size
  accounted := by
    have accounted := books.accounted
    have fewer := List.length_erase_of_mem granted
    have some := List.length_pos_of_mem granted
    simp only [gatheredBy, List.map_cons, List.sum_cons] at accounted ⊢
    omega
  line := by
    have left := (Slots.line_after_taking granted).symm.trans (books.line_of_others queued)
    exact left.cons_inv
  prompt := books.prompt
  distinct := books.others_distinct
  given := fun other member => books.given other (List.mem_cons_of_mem call member)
  partly := fun other member => books.partly other (List.mem_cons_of_mem call member)

/-- A free slot is taken at once. -/
theorem serve (books : SlotBooks capacity slots next calls outside) (some : 0 < slots.free) :
    SlotBooks capacity { slots with free := slots.free - 1 } next calls (outside + 1) where
  size := books.size
  accounted := by
    have accounted := books.accounted
    simp only
    omega
  line := books.line
  prompt := by
    rcases books.prompt with nobody | full
    · exact .inl nobody
    · omega
  distinct := books.distinct
  given := books.given
  partly := books.partly

/-- A call goes to the end of the line because no slot is free. -/
theorem queue (books : SlotBooks capacity slots next (call :: others) outside)
    (unqueued : call.queued = false) (full : slots.free = 0) :
    SlotBooks capacity { slots with waiting := slots.waiting ++ [call.ticket] } next
      ({ call with queued := true } :: others) outside where
  size := books.size
  accounted := books.accounted
  line := by
    have line := books.line
    rw [inLine, List.filter_cons_of_neg (by simp [unqueued])] at line
    rw [inLine, List.filter_cons_of_pos rfl, List.map_cons]
    simp only [List.append_assoc, List.singleton_append]
    exact List.perm_middle.trans (line.cons call.ticket)
  prompt := .inr full
  distinct := books.distinct
  given := by
    have given := List.forall_mem_cons.mp books.given
    exact List.forall_mem_cons.mpr given
  partly := by
    have partly := List.forall_mem_cons.mp books.partly
    exact List.forall_mem_cons.mpr partly

/-- A call withdraws its request, also when it has been granted a slot. -/
theorem withdraw (books : SlotBooks capacity slots next (call :: others) outside)
    (queued : call.queued = true) :
    SlotBooks capacity (slots.cancel call.ticket).1 next others (outside + call.gathered) where
  size := (Slots.cancel_capacity _ _).trans books.size
  accounted := by
    have accounted := books.accounted
    rw [Slots.cancel_accounted]
    simp only [gatheredBy, List.map_cons, List.sum_cons] at accounted ⊢
    omega
  line := by
    have line := books.line_of_others queued
    have member : call.ticket ∈ slots.waiting ++ slots.granted :=
      line.mem_iff.mpr List.mem_cons_self
    exact ((Slots.line_after_cancel member).symm.trans line).cons_inv
  prompt := Slots.cancel_prompt books.prompt call.ticket
  distinct := books.others_distinct
  given := fun other member => books.given other (List.mem_cons_of_mem call member)
  partly := fun other member => books.partly other (List.mem_cons_of_mem call member)

theorem release_many {count : Nat}
    (books : SlotBooks capacity slots next calls (outside + count)) :
    SlotBooks capacity (slots.releaseMany count).1 next calls outside where
  size := (Slots.release_many_capacity _ _).trans books.size
  accounted := by
    have accounted := books.accounted
    rw [Slots.release_many_accounted]
    omega
  line := (Slots.release_many_line _ _).trans books.line
  prompt := Slots.release_many_prompt books.prompt count
  distinct := books.distinct
  given := books.given
  partly := books.partly

theorem release (books : SlotBooks capacity slots next calls (outside + 1)) :
    SlotBooks capacity slots.release.1 next calls outside :=
  books.release_many

/-- A call with a request in the line is granted a slot, or there is none for it. -/
theorem full_of_ungranted (books : SlotBooks capacity slots next calls outside)
    (member : call ∈ calls) (queued : call.queued = true)
    (ungranted : call.ticket ∉ slots.granted) : slots.free = 0 := by
  have listed : call.ticket ∈ inLine calls :=
    List.mem_map_of_mem (List.mem_filter.mpr ⟨member, queued⟩)
  have waits : call.ticket ∈ slots.waiting :=
    (List.mem_append.mp (books.line.mem_iff.mpr listed)).resolve_right ungranted
  rcases books.prompt with nobody | full
  · rw [nobody] at waits
    cases waits
  · exact full

end SlotBooks

/-- What can happen at a desk. Only a call that does not have to wait can act, only what is there
can be given back, cancelled or taken apart; otherwise nothing happens. -/
inductive DeskMove where
  | acquire
  | drain
  | advance (ticket : Nat)
  | giveBack (ticket : Nat)
  | cancel (ticket : Nat)
  | unpack (ticket : Nat)

namespace SlotDesk

def others (desk : SlotDesk) (ticket : Nat) : List SlotCall :=
  desk.calls.filter fun call => call.ticket != ticket

def outside (desk : SlotDesk) : Nat :=
  desk.holders.length + desk.drained.length * desk.slots.capacity

/-- The slots that are held: in hands or with requests that have not resumed, gathered by unfinished
drains or drained. -/
def held (desk : SlotDesk) : Nat :=
  desk.outside + desk.slots.granted.length + gatheredBy desk.calls

/-- Takes what a drain has apart, also that of a finished one. From then on each slot is held by
itself, so that they are given back one by one. A drain under way is cancelled by that. -/
def unpack (ticket : Nat) (desk : SlotDesk) : SlotDesk :=
  if ticket ∈ desk.drained then
    { desk with
      holders := desk.holders ++ List.replicate desk.slots.capacity ticket
      drained := desk.drained.erase ticket }
  else
    match desk.callOf? ticket with
    | none => desk
    | some call =>
        { desk.endCall ticket with
          slots := if call.queued then (desk.slots.cancel ticket).1 else desk.slots
          holders := desk.holders ++ List.replicate call.gathered ticket }

/-- A drain of too many slots panics at once. -/
def after (move : DeskMove) (desk : SlotDesk) : SlotDesk :=
  match move with
  | .acquire => (desk.start .one).1
  | .drain => if desk.slots.capacity ≤ drainLimit then (desk.start (.all 0)).1 else desk
  | .advance ticket => (desk.advance ticket).getD desk
  | .giveBack ticket => (desk.giveBack ticket).1
  | .cancel ticket => (desk.cancel ticket).1
  | .unpack ticket => desk.unpack ticket

def run (moves : List DeskMove) (desk : SlotDesk) : SlotDesk :=
  moves.foldl (fun desk move => desk.after move) desk

def Orderly (capacity : Nat) (desk : SlotDesk) : Prop :=
  SlotBooks capacity desk.slots desk.nextTicket desk.calls desk.outside

variable {capacity ticket : Nat} {desk : SlotDesk} {call : SlotCall}

theorem ticket_of_call (found : desk.callOf? ticket = some call) : call.ticket = ticket := by
  simpa using List.find?_some found

theorem calls_around (found : desk.callOf? ticket = some call)
    (distinct : (desk.calls.map SlotCall.ticket).Nodup) :
    desk.calls.Perm (call :: desk.others ticket) :=
  entries_around found distinct

theorem set_call_around (found : desk.callOf? ticket = some call)
    (distinct : (desk.calls.map SlotCall.ticket).Nodup) {changed : SlotCall}
    (same : changed.ticket = ticket) :
    (desk.setCall changed).calls.Perm (changed :: desk.others ticket) := by
  obtain rfl := same
  exact update_around found distinct changed

/-- The books with the entry of one call first. -/
theorem Orderly.around (orderly : desk.Orderly capacity) (found : desk.callOf? ticket = some call) :
    SlotBooks capacity desk.slots desk.nextTicket (call :: desk.others ticket) desk.outside :=
  orderly.perm (calls_around found orderly.distinct)

theorem Orderly.of_outside {outside : Nat}
    (books : SlotBooks capacity desk.slots desk.nextTicket desk.calls outside)
    (same : desk.outside = outside) : desk.Orderly capacity := by
  rw [Orderly, same]
  exact books

theorem Orderly.of_changed (orderly : desk.Orderly capacity)
    (found : desk.callOf? ticket = some call) {changed : SlotCall} {taken : Slots Nat}
    (books : SlotBooks capacity taken desk.nextTicket (changed :: desk.others ticket) desk.outside)
    (same : changed.ticket = ticket) :
    (({ desk with slots := taken } : SlotDesk).setCall changed).Orderly capacity := by
  apply Orderly.of_outside (books.perm (set_call_around found orderly.distinct same).symm)
  simp only [outside, setCall, books.size, orderly.size]

/-- What a call does when it acts: it takes up the slot it was granted, takes a free one, or goes to
the end of the line. -/
theorem advance_cases {next : SlotDesk} (step : desk.advance ticket = some next) :
    ∃ call, desk.callOf? ticket = some call ∧
      ((call.queued = true ∧ ticket ∈ desk.slots.granted ∧
          next = ({ desk with
            slots := { desk.slots with granted := desk.slots.granted.erase ticket } } :
              SlotDesk).deliver call) ∨
        (call.queued = false ∧ 0 < desk.slots.free ∧
          next = ({ desk with slots := { desk.slots with free := desk.slots.free - 1 } } :
            SlotDesk).deliver call) ∨
        (call.queued = false ∧ desk.slots.free = 0 ∧
          next = ({ desk with
            slots := { desk.slots with waiting := desk.slots.waiting ++ [ticket] } } :
              SlotDesk).setCall { call with queued := true })) := by
  cases found : desk.callOf? ticket with
  | none => simp [advance, found] at step
  | some call =>
      refine ⟨call, rfl, ?_⟩
      cases queued : call.queued with
      | true =>
          by_cases granted : ticket ∈ desk.slots.granted
          · left
            simp only [advance, found, Slots.takeGranted?, if_pos granted] at step
            exact ⟨rfl, granted, by simpa [queued] using step.symm⟩
          · simp [advance, found, queued, Slots.takeGranted?, granted] at step
      | false =>
          right
          by_cases some : 0 < desk.slots.free
          · left
            simp only [advance, found, Slots.request, if_pos some] at step
            exact ⟨rfl, some, by simpa [queued] using step.symm⟩
          · right
            simp only [advance, found, Slots.request, if_neg some] at step
            exact ⟨rfl, Nat.eq_zero_of_not_pos some, by simpa [queued] using step.symm⟩

/-- A call is handed a slot. It keeps it as its result, or as one more of those it gathers. -/
theorem deliver_orderly (orderly : desk.Orderly capacity)
    (found : desk.callOf? call.ticket = some call) {taken : Slots Nat}
    (books : SlotBooks capacity taken desk.nextTicket (desk.others call.ticket)
      (desk.outside + call.gathered + 1)) :
    (({ desk with slots := taken } : SlotDesk).deliver call).Orderly capacity := by
  have size : taken.capacity = desk.slots.capacity := books.size.trans orderly.size.symm
  cases goal : call.goal with
  | one =>
      have nothing : call.gathered = 0 := by rw [SlotCall.gathered, goal]
      simp only [deliver, goal]
      apply Orderly.of_outside books
      simp only [outside, endCall, List.length_append, List.length_singleton, nothing, size]
      omega
  | all gathered =>
      have has : call.gathered = gathered := by rw [SlotCall.gathered, goal]
      have member : call ∈ desk.calls := List.mem_of_find?_eq_some found
      have partly := orderly.partly call member
      by_cases more : gathered + 1 < taken.capacity
      · simp only [deliver, goal, if_pos more]
        refine orderly.of_changed found ?_ rfl
        apply SlotBooks.join
        · simpa only [SlotCall.gathered, goal, Nat.add_assoc] using books
        · rfl
        · exact (orderly.around found).ticket_alone
        · exact orderly.given call member
        · simpa only [SlotCall.gathered, ← books.size] using more
      · simp only [deliver, goal, if_neg more]
        apply Orderly.of_outside books
        have whole : taken.capacity = call.gathered + 1 := by
          rw [books.size] at more ⊢
          omega
        simp only [outside, endCall, List.length_append, List.length_singleton, Nat.succ_mul,
          ← size, whole]
        omega

theorem new_orderly (opened : new? capacity = some desk) : desk.Orderly capacity := by
  simp only [new?, Slots.new?] at opened
  split at opened
  · simp only [Option.map_some, Option.some.injEq] at opened
    subst opened
    constructor
    · rfl
    · simp [gatheredBy, outside]
    · exact List.Perm.refl _
    · exact .inl rfl
    · exact List.nodup_nil
    · simp
    · simp
  · simp at opened

theorem start_orderly (orderly : desk.Orderly capacity) (positive : 0 < capacity)
    {goal : SlotGoal} (fresh : goal = .one ∨ goal = .all 0) :
    (desk.start goal).1.Orderly capacity := by
  have empty : SlotCall.gathered
      { ticket := desk.nextTicket, goal := goal, queued := false } = 0 := by
    rcases fresh with rfl | rfl <;> rfl
  have joined : SlotBooks capacity desk.slots (desk.nextTicket + 1)
      ({ ticket := desk.nextTicket, goal := goal, queued := false } :: desk.calls)
      desk.outside := by
    apply SlotBooks.join
    · rw [empty]
      exact orderly.later_tickets (Nat.le_succ _)
    · rfl
    · intro listed
      obtain ⟨other, member, same⟩ := List.mem_map.mp listed
      have bound := orderly.given other member
      simp only at same
      omega
    · exact Nat.lt_succ_self _
    · rw [empty]
      exact positive
  exact joined.perm (List.perm_append_singleton _ _).symm

theorem advance_orderly (orderly : desk.Orderly capacity) {next : SlotDesk}
    (step : desk.advance ticket = some next) : next.Orderly capacity := by
  obtain ⟨call, found, taken⟩ := advance_cases step
  obtain rfl := ticket_of_call found
  have around := orderly.around found
  have member : call ∈ desk.calls := List.mem_of_find?_eq_some found
  rcases taken with ⟨queued, granted, rfl⟩ | ⟨unqueued, some, rfl⟩ | ⟨unqueued, full, rfl⟩
  · exact deliver_orderly orderly found (around.resume queued granted)
  · exact deliver_orderly orderly found ((around.leave unqueued).serve some)
  · exact orderly.of_changed found (around.queue unqueued full) rfl

/-- The slots held outside, when all those of one finished drain are apart from the others. -/
theorem outside_of_drained (drained : ticket ∈ desk.drained) :
    desk.outside = desk.holders.length +
      (desk.drained.erase ticket).length * desk.slots.capacity + desk.slots.capacity := by
  have fewer := List.length_erase_of_mem drained
  obtain ⟨count, several⟩ := Nat.exists_eq_succ_of_ne_zero
    (Nat.ne_of_gt (List.length_pos_of_mem drained))
  rw [outside, fewer, several, Nat.succ_mul, Nat.succ_sub_one]
  omega

theorem give_back_orderly (orderly : desk.Orderly capacity) (ticket : Nat) :
    (desk.giveBack ticket).1.Orderly capacity := by
  unfold giveBack
  split
  case isTrue holds =>
    have fewer := List.length_erase_of_mem holds
    have some := List.length_pos_of_mem holds
    have apart : desk.outside = (desk.holders.erase ticket).length +
        desk.drained.length * desk.slots.capacity + 1 := by
      rw [outside]
      omega
    rw [Orderly, apart] at orderly
    apply Orderly.of_outside orderly.release
    simp only [outside, Slots.release_capacity]
  case isFalse =>
    split
    case isTrue drained =>
      rw [Orderly, outside_of_drained drained] at orderly
      apply Orderly.of_outside orderly.release_many
      simp only [outside, Slots.release_many_capacity]
    case isFalse => exact orderly

/-- The books without a call that is cancelled, with what it has gathered outside. -/
theorem books_without_call (orderly : desk.Orderly capacity)
    (found : desk.callOf? ticket = some call) :
    SlotBooks capacity (if call.queued then (desk.slots.cancel ticket).1 else desk.slots)
      desk.nextTicket (desk.others ticket) (desk.outside + call.gathered) := by
  obtain rfl := ticket_of_call found
  have around := orderly.around found
  cases queued : call.queued with
  | true => exact around.withdraw queued
  | false => exact around.leave queued

theorem cancel_of_found (found : desk.callOf? ticket = some call) :
    (desk.cancel ticket).1 =
      ({ desk with
        slots := ((if call.queued then (desk.slots.cancel ticket).1 else desk.slots).releaseMany
          call.gathered).1 } : SlotDesk).endCall ticket := by
  simp only [cancel, found]
  cases call.queued <;> rfl

theorem cancel_orderly (orderly : desk.Orderly capacity) (ticket : Nat) :
    (desk.cancel ticket).1.Orderly capacity := by
  cases found : desk.callOf? ticket with
  | none => simpa only [cancel, found] using orderly
  | some call =>
      have books := (books_without_call orderly found).release_many
      rw [cancel_of_found found]
      apply Orderly.of_outside books
      simp only [outside, endCall, books.size, orderly.size]

theorem unpack_orderly (orderly : desk.Orderly capacity) (ticket : Nat) :
    (desk.unpack ticket).Orderly capacity := by
  unfold unpack
  split
  case isTrue drained =>
    rw [Orderly, outside_of_drained drained] at orderly
    apply Orderly.of_outside
    · exact orderly
    · simp only [outside, List.length_append, List.length_replicate]
      omega
  case isFalse =>
    cases found : desk.callOf? ticket with
    | none => exact orderly
    | some call =>
        have books := books_without_call orderly found
        apply Orderly.of_outside books
        simp only [outside, endCall, List.length_append, List.length_replicate, books.size,
          orderly.size]
        omega

theorem move_orderly (orderly : desk.Orderly capacity) (positive : 0 < capacity)
    (move : DeskMove) : (desk.after move).Orderly capacity := by
  cases move with
  | acquire => exact start_orderly orderly positive (.inl rfl)
  | drain =>
      simp only [after]
      split
      · exact start_orderly orderly positive (.inr rfl)
      · exact orderly
  | advance ticket =>
      simp only [after]
      cases step : desk.advance ticket with
      | none => exact orderly
      | some next => exact advance_orderly orderly step
  | giveBack ticket => exact give_back_orderly orderly ticket
  | cancel ticket => exact cancel_orderly orderly ticket
  | unpack ticket => exact unpack_orderly orderly ticket

theorem run_orderly (orderly : desk.Orderly capacity) (positive : 0 < capacity)
    (moves : List DeskMove) : (desk.run moves).Orderly capacity := by
  induction moves generalizing desk with
  | nil => exact orderly
  | cons move later ih => exact ih (move_orderly orderly positive move)

end SlotDesk

end TaskDispatch
