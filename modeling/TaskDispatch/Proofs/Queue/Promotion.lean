import TaskDispatch.Proofs.Queue.Intake

/-!
# What a promotion does

Retries that wait may be kept in any arrangement that shows the one that is due first. A promotion
takes this one again and again, as long as it is due, and puts its message behind the pending ones.
However the entries are arranged in between, the loop moves the first entries of the schedule, one in
a pass, and stops after the last one that is due. So the promotion of a store is what the loop comes
to, and it moves a beginning of the list in which the scheduled messages are shown.

The numbers of the scheduled entries are those of their retry calls, so no two entries share one,
and the order of times and numbers is total.
-/

namespace TaskDispatch

set_option autoImplicit false

theorem Timestamp.lt_iff_not_le {left right : Timestamp} : left < right ↔ ¬ right ≤ left :=
  Int.not_le.symm

/-- A promotion under way: the entries that still wait, in some arrangement, and the pending
messages. -/
structure Promotion where
  waiting : List ScheduledTask
  pending : List TaskMessage

namespace Promotion

/-- An entry on top: no other one is due before it. -/
def Top (waiting : List ScheduledTask) (entry : ScheduledTask) : Prop :=
  entry ∈ waiting ∧ ∀ other ∈ waiting, ¬ other.precedes entry = true

/-- One pass of the loop: the entry on top is due, and its message goes behind the pending ones. The
entries that are left may be arranged anew. -/
def Pass (wall : Timestamp) (before after : Promotion) : Prop :=
  ∃ entry, Top before.waiting entry ∧ entry.retryAt ≤ wall ∧
    before.waiting.Perm (entry :: after.waiting) ∧
      after.pending = before.pending ++ [entry.message]

def Stopped (wall : Timestamp) (promotion : Promotion) : Prop :=
  ∀ entry, Top promotion.waiting entry → wall < entry.retryAt

inductive Passes (wall : Timestamp) : Nat → Promotion → Promotion → Prop where
  | none {promotion : Promotion} : Passes wall 0 promotion promotion
  | more {count : Nat} {before between after : Promotion} (pass : Pass wall before between)
      (others : Passes wall count between after) : Passes wall (count + 1) before after

def EndsIn (wall : Timestamp) (start last : Promotion) : Prop :=
  ∃ count, Passes wall count start last ∧ Stopped wall last

variable {wall : Timestamp} {entries waiting : List ScheduledTask} {pending : List TaskMessage}

/-- In every arrangement of a schedule its first entry is on top, and only this one. -/
theorem top_iff_first (ordered : Store.InOrder entries) (same : waiting.Perm entries)
    {entry : ScheduledTask} : Top waiting entry ↔ entries.head? = some entry := by
  unfold Top
  simp only [same.mem_iff]
  cases entries with
  | nil => simp
  | cons first others =>
      have firstBefore := (List.pairwise_cons.mp ordered).1
      rw [List.head?_cons, Option.some.injEq]
      constructor
      · rintro ⟨member, onTop⟩
        rcases List.mem_cons.mp member with same | later
        · exact same.symm
        · exact absurd (firstBefore entry later) (onTop first (List.mem_cons_self ..))
      · rintro rfl
        refine ⟨List.mem_cons_self .., ?_⟩
        intro other member precedes
        rcases List.mem_cons.mp member with rfl | later
        · rw [ScheduledTask.precedes_iff] at precedes
          omega
        · have before := firstBefore other later
          rw [ScheduledTask.precedes_iff] at precedes before
          omega

/-- The loop stops exactly if no entry at the beginning of the schedule is due. -/
theorem stopped_iff {promotion : Promotion} (ordered : Store.InOrder entries)
    (same : promotion.waiting.Perm entries) :
    Stopped wall promotion ↔ entries.takeWhile (Store.isDue wall) = [] := by
  unfold Stopped
  simp only [top_iff_first ordered same]
  cases entries with
  | nil => simp
  | cons first others =>
      have late : wall < first.retryAt ↔ ¬ Store.isDue wall first = true := by
        rw [Store.isDue, decide_eq_true_eq]
        exact Timestamp.lt_iff_not_le
      rw [List.takeWhile_cons]
      by_cases due : Store.isDue wall first = true <;> simp [late, due]

/-- A pass moves the first entry of the schedule. -/
theorem pass_moves_first (ordered : Store.InOrder entries) (same : waiting.Perm entries)
    {after : Promotion} (pass : Pass wall ⟨waiting, pending⟩ after) :
    ∃ first others, entries = first :: others ∧ Store.isDue wall first = true ∧
      after.waiting.Perm others ∧ after.pending = pending ++ [first.message] := by
  obtain ⟨first, top, due, taken, filed⟩ := pass
  have head := (top_iff_first ordered same).mp top
  obtain ⟨others, rfl⟩ := List.head?_eq_some_iff.mp head
  have left : (first :: after.waiting).Perm (first :: others) := taken.symm.trans same
  exact ⟨first, others, rfl, decide_eq_true due, left.cons_inv, filed⟩

/-- What the passes have moved is a beginning of the schedule, one entry for each, and all of it was
due. -/
theorem passes_move {count : Nat} {last : Promotion} (ordered : Store.InOrder entries)
    (same : waiting.Perm entries) (passes : Passes wall count ⟨waiting, pending⟩ last) :
    ∃ moved left, entries = moved ++ left ∧ moved.length = count ∧
      (∀ entry ∈ moved, Store.isDue wall entry = true) ∧ last.waiting.Perm left ∧
        last.pending = pending ++ moved.map ScheduledTask.message := by
  induction count generalizing entries waiting pending with
  | zero =>
      cases passes
      refine ⟨[], entries, rfl, rfl, ?_, same, (List.append_nil pending).symm⟩
      exact fun _ member => nomatch member
  | succ count ih =>
      cases passes with
      | @more _ _ between _ pass othersPass =>
          obtain ⟨first, others, rfl, due, arranged, filed⟩ := pass_moves_first ordered same pass
          obtain ⟨moved, left, rfl, length, allDue, rest, pendingThen⟩ :=
            ih (List.pairwise_cons.mp ordered).2 arranged othersPass
          refine ⟨first :: moved, left, rfl, congrArg Nat.succ length,
            List.forall_mem_cons.mpr ⟨due, allDue⟩, rest, ?_⟩
          rw [pendingThen, filed, List.append_assoc]
          rfl

theorem passes_bounded {count : Nat} {last : Promotion} (ordered : Store.InOrder entries)
    (same : waiting.Perm entries) (passes : Passes wall count ⟨waiting, pending⟩ last) :
    count ≤ (entries.takeWhile (Store.isDue wall)).length := by
  obtain ⟨moved, left, rfl, length, allDue, -⟩ := passes_move ordered same passes
  rw [List.takeWhile_append_of_pos allDue, List.length_append, length]
  exact Nat.le_add_right _ _

/-- As many passes can be made as entries are due. -/
theorem passes_exist (count : Nat) (ordered : Store.InOrder entries)
    (same : waiting.Perm entries)
    (enough : count ≤ (entries.takeWhile (Store.isDue wall)).length) :
    ∃ last, Passes wall count ⟨waiting, pending⟩ last := by
  induction count generalizing entries waiting pending with
  | zero => exact ⟨_, .none⟩
  | succ count ih =>
      cases entries with
      | nil => simp at enough
      | cons first others =>
          by_cases due : Store.isDue wall first = true
          · rw [List.takeWhile_cons, if_pos due, List.length_cons] at enough
            have top : Top waiting first := (top_iff_first ordered same).mpr rfl
            have pass : Pass wall ⟨waiting, pending⟩ ⟨others, pending ++ [first.message]⟩ :=
              ⟨first, top, of_decide_eq_true due, same, rfl⟩
            obtain ⟨last, passes⟩ := ih (List.pairwise_cons.mp ordered).2 (List.Perm.refl others)
              (Nat.le_of_succ_le_succ enough)
            exact ⟨last, .more pass passes⟩
          · rw [List.takeWhile_cons, if_neg due] at enough
            simp at enough

/-- Where the loop ends, it has moved what is due, and nothing else. -/
theorem end_of_loop {last : Promotion} (ordered : Store.InOrder entries)
    (same : waiting.Perm entries) (ended : EndsIn wall ⟨waiting, pending⟩ last) :
    last.waiting.Perm (entries.dropWhile (Store.isDue wall)) ∧
      last.pending =
        pending ++ (entries.takeWhile (Store.isDue wall)).map ScheduledTask.message := by
  obtain ⟨count, passes, stopped⟩ := ended
  obtain ⟨moved, left, rfl, -, allDue, rest, filed⟩ := passes_move ordered same passes
  have leftOrdered : Store.InOrder left := ordered.sublist (List.sublist_append_right _ _)
  have nothingDue := (stopped_iff leftOrdered rest).mp stopped
  have allLeft : left.dropWhile (Store.isDue wall) = left := by
    have whole : left.takeWhile (Store.isDue wall) ++ left.dropWhile (Store.isDue wall) = left :=
      List.takeWhile_append_dropWhile
    rwa [nothingDue, List.nil_append] at whole
  rw [List.takeWhile_append_of_pos allDue, List.dropWhile_append_of_pos allDue, nothingDue,
    allLeft, List.append_nil]
  exact ⟨rest, filed⟩

/-- The loop always comes to an end. -/
theorem loop_ends (ordered : Store.InOrder entries) (same : waiting.Perm entries) :
    ∃ last, EndsIn wall ⟨waiting, pending⟩ last := by
  have allPasses : ∃ last, Passes wall (entries.takeWhile (Store.isDue wall)).length
      ⟨waiting, pending⟩ last := passes_exist _ ordered same (Nat.le_refl _)
  obtain ⟨last, passes⟩ := allPasses
  refine ⟨last, _, passes, ?_⟩
  obtain ⟨moved, left, rfl, length, allDue, rest, -⟩ := passes_move ordered same passes
  have leftOrdered : Store.InOrder left := ordered.sublist (List.sublist_append_right _ _)
  apply (stopped_iff leftOrdered rest).mpr
  rw [List.takeWhile_append_of_pos allDue, List.length_append] at length
  exact List.eq_nil_of_length_eq_zero (by omega)

end Promotion

/-! ## Promotions of a store -/

namespace Store

/-- A promotion at a time: exactly the entries that are due leave the schedule, and their messages
stand behind the pending ones in the order of times and retry calls, as the list of scheduled
messages begins. The loop comes to the same from every arrangement of the entries, and an earlier
promotion makes no difference to a later one. -/
structure PromotesExactly (store : Store) (wall : Timestamp) : Prop where
  effect : store.promoteDue wall =
    { store with
      pending := store.pending
        ++ (ScheduledTask.dueInOrder wall store.scheduled).map ScheduledTask.message
      scheduled := store.scheduled.filter fun entry => decide (wall < entry.retryAt) }
  sorted : (ScheduledTask.dueInOrder wall store.scheduled).Pairwise
    fun left right => left.precedes right = true
  leading : ((ScheduledTask.dueInOrder wall store.scheduled).map
    fun entry => (entry.retryAt, entry.message)) <+: store.scheduledTasks
  listed : ∀ waiting : List ScheduledTask, waiting.Perm store.scheduled →
    store.scheduledTasks =
      (waiting.mergeSort fun left right => decide (left.NotAfter right)).map
        fun entry => (entry.retryAt, entry.message)
  bounded : ∀ waiting count last, waiting.Perm store.scheduled →
    Promotion.Passes wall count ⟨waiting, store.pending⟩ last →
      count ≤ (ScheduledTask.dueInOrder wall store.scheduled).length
  ends : ∀ waiting, waiting.Perm store.scheduled →
    ∃ last, Promotion.EndsIn wall ⟨waiting, store.pending⟩ last
  result : ∀ waiting last, waiting.Perm store.scheduled →
    Promotion.EndsIn wall ⟨waiting, store.pending⟩ last →
      last.waiting.Perm (store.promoteDue wall).scheduled ∧
        last.pending = (store.promoteDue wall).pending
  again : ∀ later, wall ≤ later →
    (store.promoteDue wall).promoteDue later = store.promoteDue later ∧
      ∀ waiting between last, waiting.Perm store.scheduled →
        Promotion.EndsIn wall ⟨waiting, store.pending⟩ between →
          Promotion.EndsIn later between last →
            last.waiting.Perm (store.promoteDue later).scheduled ∧
              last.pending = (store.promoteDue later).pending

variable {store : Store}

/-- What is due at a time is due later on as well, so promoting twice takes nothing else. -/
theorem promote_again {wall later : Timestamp} (order : wall ≤ later) :
    (store.promoteDue wall).promoteDue later = store.promoteDue later := by
  have stillDue : ∀ entry, isDue wall entry = true → isDue later entry = true := by
    intro entry due
    have early : entry.retryAt.nanos ≤ wall.nanos := of_decide_eq_true due
    have late : entry.retryAt.nanos ≤ later.nanos := Int.le_trans early order
    exact decide_eq_true late
  have early : ∀ entry ∈ store.scheduled.takeWhile (isDue wall), isDue later entry = true :=
    fun entry member => stillDue entry (List.all_eq_true.mp List.all_takeWhile entry member)
  have whole : store.scheduled.takeWhile (isDue wall) ++ store.scheduled.dropWhile (isDue wall) =
      store.scheduled := List.takeWhile_append_dropWhile
  have taken : store.scheduled.takeWhile (isDue later) =
      store.scheduled.takeWhile (isDue wall)
        ++ (store.scheduled.dropWhile (isDue wall)).takeWhile (isDue later) := by
    rw [← List.takeWhile_append_of_pos early, whole]
  have left : store.scheduled.dropWhile (isDue later) =
      (store.scheduled.dropWhile (isDue wall)).dropWhile (isDue later) :=
    calc
      store.scheduled.dropWhile (isDue later)
          = (store.scheduled.takeWhile (isDue wall)
              ++ store.scheduled.dropWhile (isDue wall)).dropWhile (isDue later) := by rw [whole]
      _ = (store.scheduled.dropWhile (isDue wall)).dropWhile (isDue later) :=
        List.dropWhile_append_of_pos early
  unfold promoteDue
  simp only [taken, left, List.map_append, List.append_assoc]

theorem promotes_exactly (ordered : InOrder store.scheduled) (wall : Timestamp) :
    store.PromotesExactly wall := by
  have due : store.scheduled.takeWhile (isDue wall) =
      ScheduledTask.dueInOrder wall store.scheduled :=
    due_of_schedule wall ordered (List.Perm.refl _)
  constructor
  case effect =>
    have notDue : (fun entry => !isDue wall entry) =
        fun entry : ScheduledTask => decide (wall < entry.retryAt) := by
      funext entry
      rw [isDue, ← decide_not, decide_eq_decide]
      exact Timestamp.lt_iff_not_le.symm
    unfold promoteDue
    rw [due, (due_stand_first wall ordered).2, notDue]
  case sorted =>
    rw [← due]
    exact ordered.sublist (List.takeWhile_sublist _)
  case leading =>
    rw [← due]
    exact (List.takeWhile_prefix _).map _
  case listed =>
    intro waiting same
    rw [← schedule_is_sorted ordered same.symm]
    rfl
  case bounded =>
    intro waiting count last same passes
    rw [← due]
    exact Promotion.passes_bounded ordered same passes
  case ends => exact fun waiting same => Promotion.loop_ends ordered same
  case result => exact fun waiting last same ended => Promotion.end_of_loop ordered same ended
  case again =>
    intro later order
    refine ⟨promote_again order, ?_⟩
    intro waiting between last same first second
    obtain ⟨middle, pending⟩ := between
    have stillOrdered : InOrder (store.promoteDue wall).scheduled :=
      ordered.sublist (List.dropWhile_sublist _)
    have promoted : middle.Perm (store.promoteDue wall).scheduled ∧
        pending = (store.promoteDue wall).pending := Promotion.end_of_loop ordered same first
    obtain ⟨left, rfl⟩ := promoted
    have ended := Promotion.end_of_loop stillOrdered left second
    rw [← promote_again order]
    exact ended

end Store

/-! ## The numbers of retry calls -/

/-- The accepted retry call of a deed: the version of the message and the time. -/
def QueueDeed.retryCall? : QueueDeed → Option (TaskMessage × Timestamp)
  | .reported message (.retry retryAt) => some (message, retryAt)
  | _ => none

def retryCalls (deeds : List QueueDeed) : List (TaskMessage × Timestamp) :=
  deeds.filterMap QueueDeed.retryCall?

theorem retry_calls_concat (deeds : List QueueDeed) (deed : QueueDeed) :
    retryCalls (deeds ++ [deed]) = retryCalls deeds ++ deed.retryCall?.toList := by
  unfold retryCalls
  rw [List.filterMap_append]
  rfl

/-- What waits bears the number of the retry call that it comes from. -/
theorem waiting_was_called (deeds : List QueueDeed) :
    (Intake.of deeds).retries = (retryCalls deeds).length ∧
      ∀ entry ∈ (Intake.of deeds).waiting,
        (retryCalls deeds)[entry.sequence]? = some (entry.message, entry.retryAt) := by
  induction deeds using List.reverseRecOn with
  | nil => exact ⟨rfl, fun _ member => nomatch member⟩
  | append_singleton deeds deed ih =>
      obtain ⟨counted, called⟩ := ih
      rw [Intake.of_concat, retry_calls_concat]
      cases deed with
      | enqueued | restored =>
          simp only [QueueDeed.retryCall?, Option.toList_none, List.append_nil]
          exact ⟨counted, called⟩
      | looked wall found =>
          simp only [QueueDeed.retryCall?, Option.toList_none, List.append_nil]
          exact ⟨counted, fun entry waits => called entry (List.mem_of_mem_filter waits)⟩
      | reported message report =>
          cases report with
          | complete | kill =>
              simp only [QueueDeed.retryCall?, Option.toList_none, List.append_nil]
              exact ⟨counted, called⟩
          | retry retryAt =>
              simp only [QueueDeed.retryCall?, Option.toList_some]
              refine ⟨by simp [Intake.after, counted], ?_⟩
              intro entry waits
              rcases List.mem_append.mp waits with earlier | latest
              · have found := called entry earlier
                have inside := (List.getElem?_eq_some_iff.mp found).1
                rw [List.getElem?_append_left inside, found]
              · rw [List.mem_singleton.mp latest, counted, List.getElem?_concat_length]

/-- Promotions do exactly what they are to do, at all times and whatever calls came from whomever
before. The numbers of the scheduled entries are those of their retry calls, so no two are the same,
all are below the next number, and of two entries one is due before the other. -/
theorem promotion_is_exact {κ : Type} [DecidableEq κ] (calls : List (QueueCall κ)) :
    let annals := (QueueAnnals.unused : QueueAnnals κ).serveAll calls
    let store := annals.queue.store
    (∀ wall, store.PromotesExactly wall) ∧
      store.nextSequence = (retryCalls annals.deeds).length ∧
      (∀ entry ∈ store.scheduled, entry.sequence < store.nextSequence ∧
        (retryCalls annals.deeds)[entry.sequence]? = some (entry.message, entry.retryAt)) ∧
      (store.scheduled.map ScheduledTask.sequence).Nodup ∧
      ∀ left ∈ store.scheduled, ∀ right ∈ store.scheduled,
        left = right ∨ left.precedes right = true ∨ right.precedes left = true := by
  intro annals store
  have serves : store.Serves annals.deeds := queue_serves calls
  obtain ⟨counted, called⟩ := waiting_was_called annals.deeds
  have next : store.nextSequence = (retryCalls annals.deeds).length :=
    serves.numbered.trans counted
  refine ⟨Store.promotes_exactly serves.ordered, next, ?_, ?_, ?_⟩
  · intro entry member
    have call := called entry (serves.scheduled.mem_iff.mp member)
    refine ⟨?_, call⟩
    rw [next]
    exact (List.getElem?_eq_some_iff.mp call).1
  · have numbers := serves.calls.nodup_iff.mpr List.nodup_range
    have waiting := (List.nodup_append.mp numbers).2.1
    exact (serves.scheduled.map ScheduledTask.sequence).nodup_iff.mpr waiting
  · intro left inLeft right inRight
    by_cases same : left = right
    · exact .inl same
    · exact .inr (Store.one_precedes serves.ordered inLeft inRight same)

end TaskDispatch
