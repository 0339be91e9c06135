import Mathlib.Data.List.Perm.Basic
import TaskDispatch.Slots.Basic

/-!
# The line of a budget of slots

A slot that is given back becomes free or is granted to the first request in the line; either way
one more slot is out of the hands of those who held it. The line, waiting and granted requests
together, loses nobody by a release. Only the request itself leaves it, by taking up its slot or
because it is cancelled; a cancelled request passes the slot on that it has been granted.
-/

namespace TaskDispatch.Slots

set_option autoImplicit false

variable {κ : Type}

theorem release_capacity (slots : Slots κ) : slots.release.1.capacity = slots.capacity := by
  unfold release
  cases slots.waiting <;> rfl

theorem release_accounted (slots : Slots κ) :
    slots.release.1.free + slots.release.1.granted.length =
      slots.free + slots.granted.length + 1 := by
  unfold release
  cases slots.waiting with
  | nil =>
      simp only
      omega
  | cons first others =>
      simp only [List.length_append, List.length_cons, List.length_nil]
      omega

theorem release_line (slots : Slots κ) :
    (slots.release.1.waiting ++ slots.release.1.granted).Perm
      (slots.waiting ++ slots.granted) := by
  unfold release
  cases line : slots.waiting with
  | nil => simp
  | cons first others =>
      have shifted : (others ++ (slots.granted ++ [first])).Perm
          (first :: (others ++ slots.granted)) := by
        rw [← List.append_assoc]
        exact List.perm_append_singleton first (others ++ slots.granted)
      simpa using shifted

theorem release_many_capacity (slots : Slots κ) (count : Nat) :
    (slots.releaseMany count).1.capacity = slots.capacity := by
  induction count generalizing slots with
  | zero => rfl
  | succ count ih =>
      simp only [releaseMany]
      rw [ih, release_capacity]

theorem release_many_accounted (slots : Slots κ) (count : Nat) :
    (slots.releaseMany count).1.free + (slots.releaseMany count).1.granted.length =
      slots.free + slots.granted.length + count := by
  induction count generalizing slots with
  | zero => rfl
  | succ count ih =>
      simp only [releaseMany]
      rw [ih, release_accounted]
      omega

theorem release_many_line (slots : Slots κ) (count : Nat) :
    ((slots.releaseMany count).1.waiting ++ (slots.releaseMany count).1.granted).Perm
      (slots.waiting ++ slots.granted) := by
  induction count generalizing slots with
  | zero => exact List.Perm.refl _
  | succ count ih =>
      simp only [releaseMany]
      exact (ih slots.release.1).trans (release_line slots)

/-- Nobody waits while a slot is free. -/
def Prompt (slots : Slots κ) : Prop := slots.waiting = [] ∨ slots.free = 0

theorem release_prompt {slots : Slots κ} (prompt : slots.Prompt) : slots.release.1.Prompt := by
  unfold release
  cases line : slots.waiting with
  | nil => exact .inl rfl
  | cons first others =>
      rcases prompt with nobody | full
      · rw [line] at nobody
        cases nobody
      · exact .inr full

theorem release_many_prompt {slots : Slots κ} (prompt : slots.Prompt) (count : Nat) :
    (slots.releaseMany count).1.Prompt := by
  induction count generalizing slots with
  | zero => exact prompt
  | succ count ih => exact ih (release_prompt prompt)

/-- The slot that is given back goes to the first in the line. -/
theorem granted_after_release {slots : Slots κ} {first : κ} {others : List κ}
    (line : slots.waiting = first :: others) : first ∈ slots.release.1.granted := by
  unfold release
  rw [line]
  exact List.mem_append_right _ (List.mem_singleton_self first)

variable [DecidableEq κ]

/-- A granted request that takes up its slot is the only one that leaves the line. -/
theorem line_after_taking {party : κ} {slots : Slots κ} (granted : party ∈ slots.granted) :
    (slots.waiting ++ slots.granted).Perm
      (party :: (slots.waiting ++ slots.granted.erase party)) := by
  calc
    (slots.waiting ++ slots.granted).Perm
        (slots.waiting ++ party :: slots.granted.erase party) :=
      (List.perm_cons_erase granted).append_left slots.waiting
    (slots.waiting ++ party :: slots.granted.erase party).Perm
        (party :: (slots.waiting ++ slots.granted.erase party)) :=
      List.perm_middle

theorem cancel_capacity (party : κ) (slots : Slots κ) :
    (slots.cancel party).1.capacity = slots.capacity := by
  unfold cancel
  split
  · exact release_capacity _
  · rfl

theorem cancel_accounted (party : κ) (slots : Slots κ) :
    (slots.cancel party).1.free + (slots.cancel party).1.granted.length =
      slots.free + slots.granted.length := by
  unfold cancel
  split
  case isTrue granted =>
    have fewer := List.length_erase_of_mem granted
    have some := List.length_pos_of_mem granted
    rw [release_accounted]
    simp only [fewer]
    omega
  case isFalse => rfl

theorem line_after_cancel {party : κ} {slots : Slots κ}
    (member : party ∈ slots.waiting ++ slots.granted) :
    (slots.waiting ++ slots.granted).Perm
      (party :: ((slots.cancel party).1.waiting ++ (slots.cancel party).1.granted)) := by
  unfold cancel
  split
  case isTrue granted =>
    have passed := release_line { slots with granted := slots.granted.erase party }
    exact (line_after_taking granted).trans (passed.symm.cons party)
  case isFalse ungranted =>
    have waits : party ∈ slots.waiting :=
      (List.mem_append.mp member).resolve_right ungranted
    exact (List.perm_cons_erase waits).append_right slots.granted

theorem cancel_prompt {slots : Slots κ} (prompt : slots.Prompt) (party : κ) :
    (slots.cancel party).1.Prompt := by
  unfold cancel
  split
  · exact release_prompt prompt
  · rcases prompt with nobody | full
    · left
      simp [nobody]
    · exact .inr full

end TaskDispatch.Slots
