import Mathlib.Data.List.Pairwise
import Mathlib.Data.List.Perm.Basic
import TaskDispatch.Proofs.Queue.Report

/-!
# The schedule of retries

Retries are due in order of their times, and at the same time in the order of their retry calls.
The schedule of a store stands in this order, whatever order the calls came in. So the retries that
are due at a time are a beginning of the schedule, and they are the same list as one gets from the
scheduled retries in any order by choosing those that are due and sorting them.
-/

namespace TaskDispatch

set_option autoImplicit false

theorem Timestamp.eq_iff_nanos {left right : Timestamp} :
    left = right ↔ left.nanos = right.nanos := by
  cases left
  cases right
  simp

namespace ScheduledTask

/-- By time, and at the same time by the number of the retry call. -/
def NotAfter (left right : ScheduledTask) : Prop :=
  left.retryAt < right.retryAt ∨
    (left.retryAt = right.retryAt ∧ left.sequence ≤ right.sequence)

instance (left right : ScheduledTask) : Decidable (left.NotAfter right) :=
  inferInstanceAs (Decidable (_ ∨ _))

theorem not_after_iff {left right : ScheduledTask} :
    left.NotAfter right ↔
      left.retryAt.nanos < right.retryAt.nanos ∨
        (left.retryAt.nanos = right.retryAt.nanos ∧ left.sequence ≤ right.sequence) := by
  unfold NotAfter
  rw [Timestamp.eq_iff_nanos]
  exact Iff.rfl

theorem precedes_iff {left right : ScheduledTask} :
    left.precedes right = true ↔
      left.retryAt.nanos < right.retryAt.nanos ∨
        (left.retryAt.nanos = right.retryAt.nanos ∧ left.sequence < right.sequence) := by
  unfold precedes
  simp only [Bool.or_eq_true, Bool.and_eq_true, decide_eq_true_eq, Timestamp.eq_iff_nanos]
  exact Iff.rfl

theorem precedes_trans {first second third : ScheduledTask}
    (front : first.precedes second = true) (back : second.precedes third = true) :
    first.precedes third = true := by
  rw [precedes_iff] at front back ⊢
  omega

theorem precedes_of_not {left right : ScheduledTask}
    (differs : left.sequence ≠ right.sequence) (notBefore : ¬ left.precedes right = true) :
    right.precedes left = true := by
  rw [precedes_iff] at notBefore ⊢
  omega

/-- The retries of a list that are due at a time, in the order in which they are due. -/
def dueInOrder (wall : Timestamp) (entries : List ScheduledTask) : List ScheduledTask :=
  (entries.filter fun entry => entry.retryAt ≤ wall).mergeSort
    fun left right => left.NotAfter right

theorem due_in_order_perm (wall : Timestamp) (entries : List ScheduledTask) :
    (dueInOrder wall entries).Perm (entries.filter fun entry => entry.retryAt ≤ wall) :=
  List.mergeSort_perm _ _

/-- Sorting brings entries into the order of their times and numbers. -/
theorem merge_sort_sorted (entries : List ScheduledTask) :
    (entries.mergeSort fun left right => left.NotAfter right).Pairwise NotAfter := by
  have transitive (first second third : ScheduledTask)
      (front : decide (first.NotAfter second) = true)
      (back : decide (second.NotAfter third) = true) :
      decide (first.NotAfter third) = true := by
    rw [decide_eq_true_eq, not_after_iff] at *
    omega
  have total (left right : ScheduledTask) :
      (decide (left.NotAfter right) || decide (right.NotAfter left)) = true := by
    rw [Bool.or_eq_true, decide_eq_true_eq, decide_eq_true_eq, not_after_iff, not_after_iff]
    omega
  exact (List.pairwise_mergeSort transitive total entries).imp fun related =>
    of_decide_eq_true related

theorem due_in_order_sorted (wall : Timestamp) (entries : List ScheduledTask) :
    (dueInOrder wall entries).Pairwise NotAfter :=
  merge_sort_sorted _

end ScheduledTask

namespace Store

/-- The entries stand in the order in which they are due, no two of the same call. -/
abbrev InOrder (entries : List ScheduledTask) : Prop :=
  entries.Pairwise fun left right => left.precedes right = true

theorem schedule_in_order {entry : ScheduledTask} {entries : List ScheduledTask}
    (ordered : InOrder entries) (fresh : ∀ other ∈ entries, other.sequence ≠ entry.sequence) :
    InOrder (schedule entry entries) := by
  induction entries with
  | nil => exact List.pairwise_singleton _ _
  | cons first others ih =>
      obtain ⟨firstBefore, othersOrdered⟩ := List.pairwise_cons.mp ordered
      have othersFresh : ∀ other ∈ others, other.sequence ≠ entry.sequence := by
        intro other member
        exact fresh other (List.mem_cons_of_mem _ member)
      simp only [schedule]
      split
      case isTrue before =>
        apply List.pairwise_cons.mpr
        refine ⟨?_, ih othersOrdered othersFresh⟩
        intro other member
        rcases List.mem_cons.mp ((schedule_perm entry others).mem_iff.mp member) with rfl | later
        · exact before
        · exact firstBefore other later
      case isFalse notBefore =>
        have entryBefore := ScheduledTask.precedes_of_not (fresh first (by simp)) notBefore
        apply List.pairwise_cons.mpr
        refine ⟨?_, ordered⟩
        intro other member
        rcases List.mem_cons.mp member with rfl | later
        · exact entryBefore
        · exact ScheduledTask.precedes_trans entryBefore (firstBefore other later)

/-- In a schedule the entries that are due stand before those that are not. -/
theorem due_stand_first (wall : Timestamp) {entries : List ScheduledTask}
    (ordered : InOrder entries) :
    entries.takeWhile (isDue wall) = entries.filter (isDue wall) ∧
      entries.dropWhile (isDue wall) = entries.filter fun entry => !isDue wall entry := by
  induction entries with
  | nil => exact ⟨rfl, rfl⟩
  | cons first others ih =>
      obtain ⟨firstBefore, othersOrdered⟩ := List.pairwise_cons.mp ordered
      obtain ⟨taken, dropped⟩ := ih othersOrdered
      by_cases due : isDue wall first = true
      · simp [due, taken, dropped]
      · have later : ∀ other ∈ others, isDue wall other = false := by
          intro other member
          have before := ScheduledTask.precedes_iff.mp (firstBefore other member)
          simp only [isDue, decide_eq_true_eq, decide_eq_false_iff_not] at due ⊢
          intro otherDue
          apply due
          change other.retryAt.nanos ≤ wall.nanos at otherDue
          change first.retryAt.nanos ≤ wall.nanos
          omega
        have nothing : others.filter (isDue wall) = [] := by
          rw [List.filter_eq_nil_iff]
          intro other member
          rw [later other member]
          exact Bool.false_ne_true
        have everything : (others.filter fun entry => !isDue wall entry) = others := by
          rw [List.filter_eq_self]
          intro other member
          rw [later other member]
          rfl
        simp [due, nothing, everything]

/-- Of two entries of a schedule one is due before the other. -/
theorem one_precedes {entries : List ScheduledTask} {left right : ScheduledTask}
    (ordered : InOrder entries) (inLeft : left ∈ entries) (inRight : right ∈ entries)
    (differs : left ≠ right) : left.precedes right = true ∨ right.precedes left = true := by
  have related : entries.Pairwise fun left right =>
      left.precedes right = true ∨ right.precedes left = true :=
    ordered.imp Or.inl
  have symmetric : Std.Symm fun left right : ScheduledTask =>
      left.precedes right = true ∨ right.precedes left = true := ⟨fun _ _ => Or.symm⟩
  exact related.forall inLeft inRight differs

/-- Two entries of a schedule, neither of which is due before the other, are one. -/
theorem one_of_not_after {entries : List ScheduledTask} {left right : ScheduledTask}
    (ordered : InOrder entries) (inLeft : left ∈ entries) (inRight : right ∈ entries)
    (front : left.NotAfter right) (back : right.NotAfter left) : left = right := by
  by_contra differs
  have apart := one_precedes ordered inLeft inRight differs
  rw [ScheduledTask.not_after_iff] at front back
  rw [ScheduledTask.precedes_iff, ScheduledTask.precedes_iff] at apart
  omega

/-- A schedule is what sorting makes of its entries in any arrangement. -/
theorem schedule_is_sorted {entries waiting : List ScheduledTask} (ordered : InOrder entries)
    (same : entries.Perm waiting) :
    entries = waiting.mergeSort fun left right => left.NotAfter right := by
  have entriesSorted : entries.Pairwise ScheduledTask.NotAfter := by
    apply ordered.imp
    intro left right before
    rw [ScheduledTask.precedes_iff] at before
    rw [ScheduledTask.not_after_iff]
    omega
  have perm := same.trans (List.mergeSort_perm waiting fun left right => left.NotAfter right).symm
  apply List.Perm.eq_of_pairwise _ entriesSorted (ScheduledTask.merge_sort_sorted waiting) perm
  intro left right inLeft inRight front back
  exact one_of_not_after ordered inLeft (perm.mem_iff.mpr inRight) front back

/-- The due beginning of a schedule is what sorting finds among the same entries in any order. -/
theorem due_of_schedule (wall : Timestamp) {entries waiting : List ScheduledTask}
    (ordered : InOrder entries) (same : entries.Perm waiting) :
    entries.takeWhile (isDue wall) = ScheduledTask.dueInOrder wall waiting := by
  have taken := List.takeWhile_sublist (isDue wall) (l := entries)
  apply schedule_is_sorted (ordered.sublist taken)
  rw [(due_stand_first wall ordered).1]
  exact same.filter _

end Store

end TaskDispatch
