import Mathlib.Data.List.Perm.Basic
import Mathlib.Data.List.Nodup
import TaskDispatch.Proofs.Entries
import TaskDispatch.Proofs.Worker.Steps

/-!
# The runners of a crew

Tickets name runners. A step of a runner replaces or removes the one entry with its ticket and
leaves the other runners alone, so a crew is, up to order, that runner and the others.
-/

namespace TaskDispatch

set_option autoImplicit false

namespace Crew

def others (crew : Crew) (ticket : Nat) : List Runner :=
  crew.runners.filter fun other => other.ticket != ticket

/-- No ticket was given out twice, and the next one is new. -/
structure Ticketed (crew : Crew) : Prop where
  distinct : (crew.runners.map Runner.ticket).Nodup
  given : ∀ runner ∈ crew.runners, runner.ticket < crew.nextTicket

variable {crew : Crew} {ticket : Nat} {runner : Runner}

theorem ticket_of_found (found : crew.runnerOf? ticket = some runner) :
    runner.ticket = ticket := by
  simpa using List.find?_some found

theorem mem_of_found (found : crew.runnerOf? ticket = some runner) : runner ∈ crew.runners :=
  List.mem_of_find?_eq_some found

theorem found_of_mem (ticketed : crew.Ticketed) (member : runner ∈ crew.runners) :
    crew.runnerOf? runner.ticket = some runner :=
  found_of_member ticketed.distinct member

theorem runners_around (found : crew.runnerOf? ticket = some runner)
    (ticketed : crew.Ticketed) : crew.runners.Perm (runner :: crew.others ticket) :=
  entries_around found ticketed.distinct

/-- Replacing an entry by one with its ticket is removing it and adding the new one. -/
theorem set_runner_around (found : crew.runnerOf? ticket = some runner)
    (ticketed : crew.Ticketed) (changed : Runner) (same : changed.ticket = runner.ticket) :
    (crew.setRunner changed).runners.Perm (changed :: crew.others ticket) := by
  obtain rfl : changed.ticket = ticket := same.trans (ticket_of_found found)
  exact update_around found ticketed.distinct changed

theorem set_runner_tickets (crew : Crew) (changed : Runner) :
    (crew.setRunner changed).runners.map Runner.ticket = crew.runners.map Runner.ticket :=
  keys_after_update rfl

theorem set_runner_ticketed (ticketed : crew.Ticketed) (changed : Runner) :
    (crew.setRunner changed).Ticketed := by
  constructor
  · rw [set_runner_tickets]
    exact ticketed.distinct
  · intro other member
    have mapped : other.ticket ∈ (crew.setRunner changed).runners.map Runner.ticket :=
      List.mem_map_of_mem member
    rw [set_runner_tickets] at mapped
    obtain ⟨before, member, same⟩ := List.mem_map.mp mapped
    rw [← same]
    exact ticketed.given before member

theorem found_after_set_runner (found : crew.runnerOf? ticket = some runner)
    (changed : Runner) (same : changed.ticket = runner.ticket) :
    (crew.setRunner changed).runnerOf? ticket = some changed := by
  obtain rfl : changed.ticket = ticket := same.trans (ticket_of_found found)
  calc
    (crew.setRunner changed).runnerOf? changed.ticket =
        (crew.runnerOf? changed.ticket).map fun _ => changed :=
      find_after_update Runner.ticket crew.runners fun _ _ => rfl
    _ = some changed := by
      rw [found]
      rfl

theorem found_elsewhere_after_set_runner (crew : Crew) {changed : Runner} {other : Nat}
    (differs : other ≠ changed.ticket) :
    (crew.setRunner changed).runnerOf? other = crew.runnerOf? other :=
  find_elsewhere_after_update Runner.ticket crew.runners (fun _ _ => rfl) differs

theorem found_elsewhere_after_retirement (crew : Crew) (slots : Slots Party) {ticket other : Nat}
    (differs : other ≠ ticket) :
    ({ crew with slots := slots, runners := crew.others ticket } : Crew).runnerOf? other =
      crew.runnerOf? other := by
  have kept : crew.others ticket =
      crew.runners.filter fun runner => decide (runner.ticket ≠ ticket) := by
    unfold others
    congr 1
    funext runner
    rw [decide_not]
    rfl
  rw [kept]
  exact find_elsewhere_after_removal Runner.ticket crew.runners differs

theorem found_after_assign (crew : Crew) (message : TaskMessage) (ticket : Nat) :
    (crew.assign message).runnerOf? ticket =
      (crew.runnerOf? ticket).or
        (if crew.nextTicket = ticket then
          some { ticket := crew.nextTicket, message := message, stage := .ready }
        else none) := by
  simp only [runnerOf?, assign, List.find?_append, List.find?_singleton, beq_iff_eq]

theorem new_ticket_unfound (ticketed : crew.Ticketed) :
    crew.runnerOf? crew.nextTicket = none := by
  rw [runnerOf?, List.find?_eq_none]
  intro runner member
  have bound := ticketed.given runner member
  simpa using Nat.ne_of_lt bound

theorem nobody_found_among_others (crew : Crew) (ticket : Nat) :
    ((crew.others ticket).find? fun other => other.ticket == ticket) = none := by
  rw [List.find?_eq_none]
  intro other member
  have differs := (List.mem_filter.mp member).2
  simpa using differs

theorem others_ticketed (ticketed : crew.Ticketed) (slots : Slots Party) (ticket : Nat) :
    ({ crew with slots := slots, runners := crew.others ticket } : Crew).Ticketed where
  distinct := ticketed.distinct.sublist (List.filter_sublist.map Runner.ticket)
  given := fun other member => ticketed.given other (List.mem_of_mem_filter member)

theorem assign_ticketed (ticketed : crew.Ticketed) (message : TaskMessage) :
    (crew.assign message).Ticketed := by
  constructor
  · simp only [assign, List.map_append, List.map_cons, List.map_nil]
    rw [List.nodup_append]
    refine ⟨ticketed.distinct, by simp, ?_⟩
    intro used member fresh new
    obtain ⟨runner, present, rfl⟩ := List.mem_map.mp member
    have bound := ticketed.given runner present
    rw [List.mem_singleton.mp new]
    exact Nat.ne_of_lt bound
  · intro runner member
    simp only [assign, List.mem_append, List.mem_singleton] at member ⊢
    rcases member with before | rfl
    · have bound := ticketed.given runner before
      omega
    · exact Nat.lt_succ_self _

end Crew

end TaskDispatch
