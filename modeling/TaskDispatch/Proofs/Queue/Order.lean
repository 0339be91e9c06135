import TaskDispatch.Proofs.Queue.Intake

/-!
# The order of delivery

A queue delivers in the order of its intake, so no message is overtaken that was pending before. Of
two retries that wait at the same time the one that is due first is let in first, whichever fetches
let them in; if both calls named the same time, the earlier call comes first.
-/

namespace TaskDispatch

set_option autoImplicit false

section Precedence

variable {first second : ScheduledTask}

/-- Of two members of the due retries the one that is due before the other stands before it. -/
theorem due_in_order_respects {wall : Timestamp} {entries : List ScheduledTask}
    (before : first.precedes second = true)
    (inFirst : first ∈ ScheduledTask.dueInOrder wall entries)
    (inSecond : second ∈ ScheduledTask.dueInOrder wall entries) :
    [first, second].Sublist (ScheduledTask.dueInOrder wall entries) := by
  have sorted := ScheduledTask.due_in_order_sorted wall entries
  obtain ⟨front, back, split⟩ := List.append_of_mem inSecond
  rw [split] at inFirst sorted ⊢
  rw [ScheduledTask.precedes_iff] at before
  rcases List.mem_append.mp inFirst with earlier | later
  · have alone : [second].Sublist (second :: back) :=
      (List.nil_sublist back).cons_cons second
    exact (List.singleton_sublist.mpr earlier).append alone
  · exfalso
    rcases List.mem_cons.mp later with same | after
    · rw [same] at before
      omega
    · have order := (List.pairwise_append.mp sorted).2.1
      have related := (List.pairwise_cons.mp order).1 first after
      rw [ScheduledTask.not_after_iff] at related
      omega

namespace Intake

/-- Each of two retries waits or has arrived, the second one only behind the first. -/
structure Respects (first second : ScheduledTask) (intake : Intake) : Prop where
  first_there : first ∈ intake.waiting ∨ first.arrival ∈ intake.arrivals
  second_there : second ∈ intake.waiting ∨ second.arrival ∈ intake.arrivals
  behind : second.arrival ∈ intake.arrivals →
    [first.arrival, second.arrival].Sublist intake.arrivals

/-- No retry call waits twice, and none that has arrived still waits. -/
def Numbered (intake : Intake) : Prop :=
  (intake.arrivals.filterMap Arrival.call?
    ++ intake.waiting.map ScheduledTask.sequence).Nodup

variable {intake : Intake}

/-- After a look a retry that is somewhere is still somewhere. -/
theorem there_after_look {entry : ScheduledTask} (wall : Timestamp) (found : Option TaskMessage)
    (there : entry ∈ intake.waiting ∨ entry.arrival ∈ intake.arrivals) :
    entry ∈ (intake.after (.looked wall found)).waiting ∨
      entry.arrival ∈ (intake.after (.looked wall found)).arrivals := by
  rcases there with waits | arrived
  · by_cases due : entry.retryAt ≤ wall
    · right
      have chosen : entry ∈ ScheduledTask.dueInOrder wall intake.waiting := by
        rw [(ScheduledTask.due_in_order_perm wall intake.waiting).mem_iff, List.mem_filter]
        exact ⟨waits, decide_eq_true due⟩
      exact List.mem_append_right _ (List.mem_map_of_mem chosen)
    · left
      simp only [after, List.mem_filter]
      exact ⟨waits, by simp [due]⟩
  · exact .inr (List.mem_append_left _ arrived)

theorem respects_after_look (respects : intake.Respects first second)
    (numbered : intake.Numbered) (precedes : first.precedes second = true) (wall : Timestamp)
    (found : Option TaskMessage) :
    (intake.after (.looked wall found)).Respects first second := by
  refine
    ⟨there_after_look wall found respects.first_there,
      there_after_look wall found respects.second_there, ?_⟩
  intro arrives
  by_cases old : second.arrival ∈ intake.arrivals
  · exact (respects.behind old).trans (List.sublist_append_left _ _)
  have waits : second ∈ intake.waiting := respects.second_there.resolve_right old
  have inDue {entry : ScheduledTask} :
      entry ∈ ScheduledTask.dueInOrder wall intake.waiting ↔
        entry ∈ intake.waiting ∧ entry.retryAt ≤ wall := by
    rw [(ScheduledTask.due_in_order_perm wall intake.waiting).mem_iff, List.mem_filter,
      decide_eq_true_eq]
  -- The entry that now arrives under the number of the second retry is that retry itself.
  have due : second ∈ ScheduledTask.dueInOrder wall intake.waiting := by
    rcases List.mem_append.mp arrives with arrived | arriving
    · exact absurd arrived old
    · obtain ⟨entry, chosen, same⟩ := List.mem_map.mp arriving
      have number : entry.sequence = second.sequence := by
        injection same
      have distinct := (List.nodup_append.mp numbered).2.1
      have one := List.inj_on_of_nodup_map distinct (inDue.mp chosen).1 waits number
      rwa [← one]
  rcases respects.first_there with withIt | arrived
  · have firstDue : first ∈ ScheduledTask.dueInOrder wall intake.waiting := by
      refine inDue.mpr ⟨withIt, ?_⟩
      have secondDue := (inDue.mp due).2
      rw [ScheduledTask.precedes_iff] at precedes
      change second.retryAt.nanos ≤ wall.nanos at secondDue
      change first.retryAt.nanos ≤ wall.nanos
      omega
    have order := (due_in_order_respects precedes firstDue due).map ScheduledTask.arrival
    exact order.trans (List.sublist_append_right _ _)
  · have secondAlone := List.singleton_sublist.mpr
      (List.mem_map_of_mem (f := ScheduledTask.arrival) due)
    exact (List.singleton_sublist.mpr arrived).append secondAlone

/-- Messages that are no retries come in between without harm. -/
theorem respects_after_others (respects : intake.Respects first second) (others : List Arrival)
    (unnumbered : ∀ arrival ∈ others, arrival.call? = none) :
    ({ intake with arrivals := intake.arrivals ++ others } : Intake).Respects first second := by
  refine
    ⟨respects.first_there.imp_right (List.mem_append_left _),
      respects.second_there.imp_right (List.mem_append_left _), ?_⟩
  intro arrives
  rcases List.mem_append.mp arrives with arrived | stranger
  · exact (respects.behind arrived).trans (List.sublist_append_left _ _)
  · have nothing := unnumbered _ stranger
    simp [ScheduledTask.arrival, Arrival.call?] at nothing

theorem respects_after (respects : intake.Respects first second) (numbered : intake.Numbered)
    (precedes : first.precedes second = true) (deed : QueueDeed) :
    (intake.after deed).Respects first second := by
  cases deed with
  | enqueued message =>
      apply respects_after_others respects
      intro arrival member
      rw [List.mem_singleton.mp member]
      rfl
  | looked wall found => exact respects_after_look respects numbered precedes wall found
  | reported message report =>
      cases report with
      | complete | kill => exact respects
      | retry retryAt =>
          exact
            ⟨respects.first_there.imp_left (List.mem_append_left _),
              respects.second_there.imp_left (List.mem_append_left _), respects.behind⟩
  | restored orphans =>
      apply respects_after_others respects
      intro arrival member
      obtain ⟨orphan, _, rfl⟩ := List.mem_map.mp member
      rfl

/-- What is behind another arrival is served behind it. -/
theorem served_behind (numbered : intake.Numbered) (respects : intake.Respects first second)
    (count : Nat) (served : second.arrival ∈ intake.arrivals.take count) :
    [first.arrival, second.arrival].Sublist (intake.arrivals.take count) := by
  have distinct := (List.nodup_append.mp numbered).1
  have order := respects.behind (List.mem_of_mem_take served)
  rw [← List.take_append_drop count intake.arrivals] at distinct order
  rw [List.filterMap_append] at distinct
  have notLater : second.arrival ∉ intake.arrivals.drop count := by
    intro later
    have early : second.sequence ∈ (intake.arrivals.take count).filterMap Arrival.call? :=
      List.mem_filterMap.mpr ⟨_, served, rfl⟩
    have late : second.sequence ∈ (intake.arrivals.drop count).filterMap Arrival.call? :=
      List.mem_filterMap.mpr ⟨_, later, rfl⟩
    exact (List.nodup_append.mp distinct).2.2 _ early _ late rfl
  obtain ⟨front, back, split, inFront, inBack⟩ := List.sublist_append_iff.mp order
  have nothing : back = [] := by
    rcases List.eq_nil_or_concat back with empty | ⟨rest, last, rfl⟩
    · exact empty
    · have atEnd : last = second.arrival := by
        have ends := congrArg List.getLast? split
        simpa using ends.symm
      exact absurd (inBack.subset (by simp [atEnd])) notLater
  rw [nothing, List.append_nil] at split
  rw [split]
  exact inFront

end Intake

end Precedence

section Calls

variable {κ : Type} [DecidableEq κ]

theorem Store.Serves.numbers {deeds : List QueueDeed} {store : Store}
    (serves : store.Serves deeds) : (Intake.of deeds).Numbered :=
  serves.calls.nodup_iff.mpr List.nodup_range

theorem retries_respected {first second : ScheduledTask}
    (precedes : first.precedes second = true) (annals : QueueAnnals κ)
    (serves : annals.queue.store.Serves annals.deeds)
    (respects : (Intake.of annals.deeds).Respects first second) (calls : List (QueueCall κ)) :
    (Intake.of (annals.serveAll calls).deeds).Respects first second := by
  have along := QueueAnnals.annals_keep
    (fun deeds store => store.Serves deeds ∧ (Intake.of deeds).Respects first second)
    (by
      intro deeds store next deed step before
      refine ⟨Store.serves_after_step step before.1, ?_⟩
      cases deed with
      | none =>
          rw [Option.toList_none, List.append_nil]
          exact before.2
      | some deed =>
          rw [Option.toList_some, Intake.of_concat]
          exact Intake.respects_after before.2 before.1.numbers precedes deed)
    annals ⟨serves, respects⟩ calls
  exact along.2

theorem deliveries_are_returned (annals : QueueAnnals κ) (calls : List (QueueCall κ)) :
    deliveries (annals.serveAll calls).deeds =
      deliveries annals.deeds ++ annals.queue.returns calls := by
  induction calls generalizing annals with
  | nil => exact (List.append_nil _).symm
  | cons call calls ih =>
      have queue : (annals.serve call).queue = (annals.queue.serve call).1 :=
        MemoryQueue.queue_after_serve annals.toQueueRecord call
      have first : deliveries (annals.serve call).deeds =
          deliveries annals.deeds ++ (annals.queue.returned? call).toList := by
        rw [← MemoryQueue.delivered_is_returned]
        simp only [QueueAnnals.serve]
        cases annals.queue.deed? call with
        | none => simp
        | some deed => exact deliveries_concat annals.deeds deed
      rw [MemoryQueue.returns, ← List.append_assoc, ← first, ← queue]
      exact ih (annals.serve call)

/-- Whatever calls come from whomever, the queue delivers in the order of arrival: what the fetches
have returned and then the pending messages are the arrivals, each restored message behind those
before it, and each retry when its time had come, in the order of the times and of the retry calls.
So nobody overtakes what was pending before, and of two retries that wait together the one that is
due first is returned first. -/
theorem delivery_is_in_order (calls : List (QueueCall κ)) :
    let annals := (QueueAnnals.unused : QueueAnnals κ).serveAll calls
    let intake := Intake.of annals.deeds
    let delivered := (MemoryQueue.empty : MemoryQueue κ).returns calls
    delivered ++ annals.queue.store.pending = intake.arrivals.map Arrival.message ∧
      annals.queue.store.scheduled.Perm intake.waiting ∧
      (intake.arrivals.filterMap Arrival.call?).Nodup ∧
      ∀ early late, calls = early ++ late →
        let before := (QueueAnnals.unused : QueueAnnals κ).serveAll early
        (MemoryQueue.empty : MemoryQueue κ).returns early ++ before.queue.store.pending <+:
            delivered ++ annals.queue.store.pending ∧
          ∀ first ∈ (Intake.of before.deeds).waiting,
            ∀ second ∈ (Intake.of before.deeds).waiting,
              first.retryAt < second.retryAt ∨
                  (first.retryAt = second.retryAt ∧ first.sequence < second.sequence) →
                second.arrival ∈ intake.arrivals.take delivered.length →
                  [first.arrival, second.arrival].Sublist
                    (intake.arrivals.take delivered.length) := by
  intro annals intake delivered
  have serves : annals.queue.store.Serves annals.deeds := queue_serves calls
  have returned : delivered = deliveries annals.deeds :=
    (deliveries_are_returned QueueAnnals.unused calls).symm
  rw [returned]
  refine ⟨serves.served, serves.scheduled, (List.nodup_append.mp serves.numbers).1, ?_⟩
  intro early late split before
  have continued : annals = before.serveAll late := by
    simp only [annals, before, split, QueueAnnals.serve_all_append]
  have servesBefore : before.queue.store.Serves before.deeds := queue_serves early
  have returnedBefore : (MemoryQueue.empty : MemoryQueue κ).returns early =
      deliveries before.deeds :=
    (deliveries_are_returned QueueAnnals.unused early).symm
  refine ⟨?_, ?_⟩
  · obtain ⟨more, same⟩ := QueueAnnals.deeds_grow before late
    rw [returnedBefore, serves.served, servesBefore.served]
    apply List.IsPrefix.map
    rw [continued, ← same]
    exact Intake.arrivals_grow before.deeds more
  · intro first inFirst second inSecond dueBefore served
    have precedes : first.precedes second = true := by
      simpa [ScheduledTask.precedes] using dueBefore
    have notArrived : second.arrival ∉ (Intake.of before.deeds).arrivals := by
      intro arrived
      have numbers := List.nodup_append.mp servesBefore.numbers
      have left : second.sequence ∈
          (Intake.of before.deeds).arrivals.filterMap Arrival.call? :=
        List.mem_filterMap.mpr ⟨_, arrived, rfl⟩
      exact numbers.2.2 _ left _ (List.mem_map_of_mem inSecond) rfl
    have respects : intake.Respects first second := by
      have start : (Intake.of before.deeds).Respects first second :=
        { first_there := .inl inFirst
          second_there := .inl inSecond
          behind := fun arrived => absurd arrived notArrived }
      have later := retries_respected precedes before servesBefore start late
      rwa [← continued] at later
    exact Intake.served_behind serves.numbers respects _ served

end Calls

end TaskDispatch
