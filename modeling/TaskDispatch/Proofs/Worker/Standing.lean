import TaskDispatch.Proofs.Worker.Conclusion
import TaskDispatch.Proofs.Worker.Custody

/-!
# Whose entries are in progress

Any number of processors with retry policies work on one queue in memory, on messages with distinct
identifiers. A report takes out the entry with its identifier, whichever attempt it is made for. So
what is in progress is kept by what puts it there: every entry belongs to the attempt at its message
that was begun last, with nothing restored since. And all versions of a message, those in the store
and those that attempts were begun with, have one ceiling.
-/

namespace TaskDispatch

set_option autoImplicit false

namespace Store

def messages (store : Store) : Multiset TaskMessage := store.alive + ↑store.dead

variable {store : Store} {message entry : TaskMessage}

theorem ids_of_messages (store : Store) : store.messages.map TaskMessage.id = store.ids := by
  rw [ids_eq_alive_and_dead, messages, Multiset.map_add]
  rfl

theorem ids_of_same_messages {later : Store} (same : later.messages = store.messages) :
    later.ids = store.ids := by
  rw [← ids_of_messages, ← ids_of_messages, same]

theorem messages_of_parts {later : Store} (alive : later.alive = store.alive)
    (dead : later.dead = store.dead) : later.messages = store.messages := by
  rw [messages, messages, alive, dead]

theorem messages_after_enqueue (message : TaskMessage) (store : Store) :
    (store.enqueue message).messages = message ::ₘ store.messages := by
  rw [messages, alive_after_enqueue, Multiset.cons_add]
  rfl

theorem messages_after_file (message : TaskMessage) (store : Store) (report : Report) :
    (store.file message report).messages =
      report.renewed message + ↑(report.buried message) + store.messages := by
  rw [messages, messages, alive_after_file, dead_after_file, ← Multiset.coe_add]
  abel

theorem mem_messages_of_in_progress (member : entry ∈ store.inProgress) :
    entry ∈ store.messages := by
  rw [messages, Multiset.mem_add]
  exact .inl (Multiset.mem_of_le store.in_progress_le_alive (Multiset.mem_coe.mpr member))

theorem mem_messages_of_scheduled (member : message ∈ store.scheduled.map ScheduledTask.message) :
    message ∈ store.messages := by
  rw [messages, alive, Multiset.mem_add, Multiset.mem_add]
  exact .inl (.inr (Multiset.mem_coe.mpr member))

/-- The store is an entry in progress and the store without it. -/
theorem messages_around {others : List TaskMessage}
    (taken : store.inProgress.Perm (entry :: others)) :
    store.messages = entry ::ₘ ({ store with inProgress := others } : Store).messages := by
  rw [messages, messages, alive, alive, Multiset.coe_eq_coe.mpr taken, ← Multiset.cons_coe,
    Multiset.add_cons, Multiset.cons_add, Multiset.cons_add]

theorem same_of_id (distinct : store.ids.Nodup) (first : message ∈ store.messages)
    (second : entry ∈ store.messages) (same : message.id = entry.id) : message = entry := by
  rw [← ids_of_messages] at distinct
  exact Multiset.inj_on_of_nodup_map distinct message first entry second same

end Store

/-- The versions that a report leaves in the store. -/
theorem Report.mem_left {report : Report} {message version : TaskMessage}
    (left : version ∈ report.renewed message + ↑(report.buried message)) :
    version = message ∧ ((∃ retryAt, report = .retry retryAt) ∨ report = .kill) := by
  cases report with
  | complete => cases Multiset.notMem_zero _ left
  | retry retryAt => exact ⟨by simpa [renewed, buried] using left, .inl ⟨retryAt, rfl⟩⟩
  | kill => exact ⟨by simpa [renewed, buried] using left, .inr rfl⟩

/-- What the store contains after a report was there before, or it is the reported version, which
has taken the place of an entry in progress. -/
theorem MemoryQueue.stored_before_report {κ : Type} {queue : MemoryQueue κ}
    {version after : TaskMessage} {report : Report}
    (left : after ∈ (queue.report version report).state.store.messages) :
    after ∈ queue.store.messages ∨
      after = version ∧ ((∃ retryAt, report = .retry retryAt) ∨ report = .kill) ∧
        ∃ entry ∈ queue.store.inProgress, entry.id = version.id := by
  by_cases present : queue.store.Holds version.id
  · obtain ⟨-, found, others, -, taken, filed⟩ := queue.report_accepted version report present
    rw [filed, Store.messages_after_file] at left
    rcases Multiset.mem_add.mp left with new | kept
    · obtain ⟨own, kind⟩ := Report.mem_left new
      exact .inr ⟨own, kind, present⟩
    · left
      rw [Store.messages_around taken]
      exact Multiset.mem_cons_of_mem kept
  · rw [(queue.report_refused version report present).2] at left
    exact .inl left

def Move.action? {α : Type} : Move α → Option α
  | .outside action => some action
  | _ => none

section Moves

inductive TaskMove (index : Nat) (policy : RetryPolicy) (crew : Crew) (queue : MemoryQueue Party) :
    Move TaskMessage → Option Act → MemoryQueue Party → Prop where
  | still {move : Move TaskMessage} {act : Option Act} {later : MemoryQueue Party}
      (unmarked : ∀ marks, markedBy index marks act = marks)
      (inside : move.action? = none)
      (inProgress : later.store.inProgress = queue.store.inProgress)
      (messages : later.store.messages = queue.store.messages) :
      TaskMove index policy crew queue move act later
  | fetched {move : Move TaskMessage} {later : MemoryQueue Party} (message : TaskMessage)
      (inside : move.action? = none)
      (inProgress : later.store.inProgress = queue.store.inProgress ++ [message])
      (messages : later.store.messages = queue.store.messages) :
      TaskMove index policy crew queue move (some (.fetchEnded (.ok (some message)))) later
  | restored {move : Move TaskMessage} {answer : Except CallFailure Nat}
      {later : MemoryQueue Party} (inside : move.action? = none)
      (inProgress : later.store.inProgress = [])
      (messages : later.store.messages = queue.store.messages) :
      TaskMove index policy crew queue move (some (.restored answer)) later
  | enqueued (message : TaskMessage) :
      TaskMove index policy crew queue (.outside message) none (queue.enqueue message).1
  | reported {ticket draw : Nat} {now : Moment} {act : Option Act} {runner : Runner}
      {result : Except TaskError Unit} (unmarked : ∀ marks, markedBy index marks act = marks)
      (found : crew.runnerOf? ticket = some runner)
      (reporting : runner.stage = .reporting result) :
      TaskMove index policy crew queue (.runner ticket draw now) act
        (queue.afterCall (policy.call? runner.message now draw result))

variable {η : Type} {handler : Handler η} {index ticket draw : Nat} {policy : RetryPolicy}
  {crew next : Crew} {queue later : MemoryQueue Party} {handlers changed : η}
  {act : Option Act}

theorem TaskMove.of_same_store {move : Move TaskMessage}
    (unmarked : ∀ marks, markedBy index marks act = marks)
    (inside : move.action? = none) (same : later.store = queue.store) :
    TaskMove index policy crew queue move act later :=
  .still unmarked inside (congrArg _ same) (congrArg _ same)

theorem tasks_after_look {wall : Timestamp} {found : Option TaskMessage}
    (looked : queue.store.fetch wall = (found, later.store)) :
    later.store.inProgress = queue.store.inProgress ++ found.toList ∧
      later.store.messages = queue.store.messages := by
  have store : later.store = (queue.store.fetch wall).2 := by rw [looked]
  have taken : found = (queue.store.fetch wall).1 := by rw [looked]
  rw [store, taken]
  exact
    ⟨Store.in_progress_after_fetch wall queue.store,
      Store.messages_of_parts (Store.alive_after_fetch wall queue.store)
        (Store.dead_after_fetch wall queue.store)⟩

theorem loop_task_move {timeout : Duration} {cause : WakeCause} {now : Moment}
    (move : LoopMove MemoryQueue.backend index timeout cause now crew queue act next later) :
    TaskMove index policy crew queue (.loop cause now) act later := by
  have fruitless {act : Option Act} {step : FetchStep} {woken : List Party}
      {after : MemoryQueue Party}
      (unmarked : ∀ marks, markedBy index marks act = marks)
      (fetch : queue.advanceFetch cause (.loop index) now = some (after, step, woken))
      (nothing : ∀ message, step ≠ .returned (.ok (some message))) :
      TaskMove index policy crew queue (.loop cause now) act after := by
    obtain ⟨message, brought, _⟩ | ⟨_, same | looked⟩ := MemoryQueue.store_after_fetch_step fetch
    · exact absurd brought (nothing message)
    · exact .of_same_store unmarked rfl same
    · obtain ⟨inProgress, messages⟩ := tasks_after_look looked
      exact .still unmarked rfl (inProgress.trans (List.append_nil _)) messages
  cases move with
  | stopped | overdue | admitted | queued | resumed => exact .of_same_store (fun _ => rfl) rfl rfl
  | begun _ _ fetch =>
      exact .of_same_store (fun _ => rfl) rfl (store_after_start_fetch fetch)
  | waiting _ fetch => exact fruitless (fun _ => rfl) fetch (by simp)
  | @answered _ _ answer _ fetch =>
      rcases answer with (error | _) | (_ | message)
      · exact fruitless (fun _ => rfl) fetch (by simp)
      · exact fruitless (fun _ => rfl) fetch (by simp)
      · exact fruitless (fun _ => rfl) fetch (by simp)
      · obtain ⟨_, brought, looked⟩ | ⟨nothing | nothing, _⟩ :=
          MemoryQueue.store_after_fetch_step fetch
        · cases brought
          obtain ⟨inProgress, messages⟩ := tasks_after_look looked
          exact .fetched message rfl inProgress messages
        · cases nothing
        · cases nothing

theorem runner_task_move {now : Moment}
    (move : RunnerMove (MemoryQueue.setting handler).plant
      (policy.reconcile MemoryQueue.backend) ticket draw now crew queue handlers act next later
      changed) :
    TaskMove index policy crew queue (.runner ticket draw now) act later := by
  have whole := move
  cases move with
  | called | handled | retired => exact .of_same_store (fun _ => rfl) rfl rfl
  | completed found reporting | failed found reporting =>
      rw [queue_after_report_move whole found reporting]
      exact .reported (fun _ => rfl) found reporting

theorem task_move_cases {processor later : Processor (MemoryQueue Party)}
    {next : MemoryQueue Party} {move : Move TaskMessage}
    (moved : ServiceMove (MemoryQueue.setting handler) index processor queue handlers move act
      later next changed)
    (failure : processor.failure = policy.reconcile MemoryQueue.backend) :
    TaskMove index policy processor.crew queue move act next := by
  have restored {move : Move TaskMessage} (inside : move.action? = none) :
      TaskMove index policy processor.crew queue move (some (.restored queue.restore.answer))
        queue.restore.state := by
    have store := queue.restored_store
    refine .restored inside ?_ ?_
    · rw [store]
      rfl
    · rw [store]
      exact Store.messages_of_parts (Store.alive_after_restore queue.store) rfl
  cases moved with
  | startRefused | terminationRefused | terminating | closed | keptOn | dropped =>
      exact .of_same_store (fun _ => rfl) rfl rfl
  | startPanicked | started => exact restored rfl
  | dispatched move => exact loop_task_move move
  | executed move =>
      rw [failure] at move
      exact runner_task_move move
  | acted message => exact .enqueued message

end Moves

/-- A message among those that were issued has the identifier and the ceiling of a version. -/
def Stems (issued : Multiset TaskMessage) (version : TaskMessage) : Prop :=
  ∃ original ∈ issued, original.id = version.id ∧ original.ceiling = version.ceiling

theorem Stems.mono {issued more : Multiset TaskMessage} {version : TaskMessage}
    (stems : Stems issued version) (fewer : issued ≤ more) : Stems more version := by
  obtain ⟨original, member, same⟩ := stems
  exact ⟨original, Multiset.mem_of_le fewer member, same⟩

/-- Versions of one message have one ceiling. -/
theorem Stems.same_ceiling {issued : Multiset TaskMessage} {version other : TaskMessage}
    (distinct : (issued.map TaskMessage.id).Nodup) (stems : Stems issued version)
    (stemsToo : Stems issued other) (same : version.id = other.id) :
    version.ceiling = other.ceiling := by
  obtain ⟨original, member, id, ceiling⟩ := stems
  obtain ⟨source, memberToo, idToo, ceilingToo⟩ := stemsToo
  have one : original = source :=
    Multiset.inj_on_of_nodup_map distinct original member source memberToo
      (id.trans (same.trans idToo.symm))
  rw [← ceiling, ← ceilingToo, one]

/-- A message that comes to the others has an identifier of its own. -/
theorem Stems.apart {issued : Multiset TaskMessage} {version message : TaskMessage}
    (stems : Stems issued version)
    (distinct : ((issued + {message}).map TaskMessage.id).Nodup) : version.id ≠ message.id := by
  obtain ⟨original, member, id, -⟩ := stems
  rw [Multiset.map_add, Multiset.nodup_add] at distinct
  rw [← id]
  intro same
  exact Multiset.disjoint_left.mp distinct.2.2 (Multiset.mem_map_of_mem _ member)
    (same ▸ Multiset.mem_map_of_mem _ (Multiset.mem_singleton_self message))

/-- The store holds versions of issued messages, and what is in progress belongs to the attempts
that stand for it. -/
structure Assigned (issued : Multiset TaskMessage) (marks : List Mark) (store : Store) : Prop where
  known : store.ids ≤ issued.map TaskMessage.id
  stored : ∀ version ∈ store.messages, Stems issued version
  begun : ∀ attempt, .fetched attempt ∈ marks → Stems issued attempt.message
  entries : ∀ entry ∈ store.inProgress,
    ∃ attempt, standing? entry.id marks = some attempt ∧ attempt.message = entry

section Steps

variable {issued : Multiset TaskMessage} {marks : List Mark} {store later : Store}
  {queue : MemoryQueue Party}

theorem assigned_at_first (idle : store.inProgress = []) : Assigned store.messages [] store where
  known := le_of_eq store.ids_of_messages.symm
  stored := fun version member => ⟨version, member, rfl, rfl⟩
  begun := fun _ member => absurd member List.not_mem_nil
  entries := fun _ member => absurd (idle ▸ member) List.not_mem_nil

theorem assigned_after_fetch (assigned : Assigned issued marks store)
    (distinct : (issued.map TaskMessage.id).Nodup) (index : Nat) {message : TaskMessage}
    (inProgress : later.inProgress = store.inProgress ++ [message])
    (messages : later.messages = store.messages) :
    Assigned issued (markedBy index marks (some (.fetchEnded (.ok (some message))))) later := by
  have ids := Store.ids_of_same_messages messages
  have apart : (later.inProgress.map TaskMessage.id).Nodup := by
    have alive := Store.alive_nodup (Multiset.nodup_of_le (ids ▸ assigned.known) distinct)
    exact Multiset.coe_nodup.mp
      (Multiset.nodup_of_le (Multiset.map_le_map later.in_progress_le_alive) alive)
  rw [inProgress, List.map_append, List.map_singleton] at apart
  constructor
  case known => exact ids ▸ assigned.known
  case stored => exact messages ▸ assigned.stored
  case begun =>
    intro attempt member
    rcases List.mem_cons.mp member with new | old
    · cases new
      apply assigned.stored
      rw [← messages]
      apply Store.mem_messages_of_in_progress
      rw [inProgress]
      exact List.mem_append_right _ (List.mem_singleton_self _)
    · exact assigned.begun attempt old
  case entries =>
    intro entry member
    rw [inProgress] at member
    rcases List.mem_append.mp member with old | new
    · have differs : message.id ≠ entry.id := by
        intro same
        exact List.disjoint_of_nodup_append apart (List.mem_map_of_mem old)
          (List.mem_singleton.mpr same.symm)
      rw [markedBy, standing?, if_neg differs]
      exact assigned.entries entry old
    · obtain rfl := List.mem_singleton.mp new
      exact ⟨_, if_pos rfl, rfl⟩

theorem assigned_after_restore (assigned : Assigned issued marks store)
    (inProgress : later.inProgress = []) (messages : later.messages = store.messages) :
    Assigned issued (.restored :: marks) later where
  known := Store.ids_of_same_messages messages ▸ assigned.known
  stored := messages ▸ assigned.stored
  begun := fun attempt member =>
    assigned.begun attempt ((List.mem_cons.mp member).resolve_left (by simp))
  entries := fun _ member => absurd (inProgress ▸ member) List.not_mem_nil

theorem assigned_after_enqueue (assigned : Assigned issued marks store) (message : TaskMessage) :
    Assigned (message ::ₘ issued) marks (store.enqueue message) := by
  have fewer : issued ≤ message ::ₘ issued := Multiset.le_cons_self _ _
  constructor
  case known =>
    rw [Store.ids_after_enqueue, Multiset.map_cons]
    exact Multiset.cons_le_cons _ assigned.known
  case stored =>
    intro version member
    rw [Store.messages_after_enqueue] at member
    rcases Multiset.mem_cons.mp member with rfl | old
    · exact ⟨version, Multiset.mem_cons_self _ _, rfl, rfl⟩
    · exact (assigned.stored version old).mono fewer
  case begun => exact fun attempt member => (assigned.begun attempt member).mono fewer
  case entries => exact assigned.entries

/-- Whatever entry a report takes out, the others stay with their attempts. -/
theorem assigned_after_report (assigned : Assigned issued marks queue.store)
    {version : TaskMessage} (stems : Stems issued version) (report : Report) :
    Assigned issued marks (queue.report version report).state.store := by
  by_cases present : queue.store.Holds version.id
  · obtain ⟨-, found, others, -, taken, filed⟩ := queue.report_accepted version report present
    obtain ⟨-, ids, -⟩ := queue.ids_after_report version report present
    constructor
    case known => exact (Multiset.le_add_right _ _).trans (ids.le.trans assigned.known)
    case stored =>
      intro other member
      rcases MemoryQueue.stored_before_report member with kept | ⟨rfl, -⟩
      · exact assigned.stored other kept
      · exact stems
    case begun => exact assigned.begun
    case entries =>
      intro entry member
      rw [filed, Store.in_progress_after_file] at member
      exact assigned.entries entry (taken.mem_iff.mpr (List.mem_cons_of_mem _ member))
  · rw [(queue.report_refused version report present).2]
    exact assigned

theorem Crew.attempt_of_found {crew : Crew} {ticket : Nat} {runner : Runner}
    (found : crew.runnerOf? ticket = some runner) (index : Nat) :
    ⟨index, ticket, runner.message⟩ ∈ crew.attempts index := by
  apply List.mem_append_right
  exact List.mem_map.mpr ⟨runner, mem_of_found found, by rw [ticket_of_found found]⟩

variable {index : Nat} {policy : RetryPolicy} {crew : Crew} {move : Move TaskMessage}
  {act : Option Act} {next : MemoryQueue Party}

theorem assigned_after_move (step : TaskMove index policy crew queue move act next)
    (carried : ∀ attempt ∈ crew.attempts index, .fetched attempt ∈ marks)
    (distinct : (issued.map TaskMessage.id).Nodup)
    (assigned : Assigned issued marks queue.store) :
    Assigned (issued + ↑move.action?.toList) (markedBy index marks act) next.store := by
  have nothing {move : Move TaskMessage} (inside : move.action? = none) :
      issued + ↑move.action?.toList = issued := by
    rw [inside]
    exact add_zero _
  cases step with
  | still unmarked inside inProgress messages =>
      rw [nothing inside, unmarked]
      exact
        { known := Store.ids_of_same_messages messages ▸ assigned.known
          stored := messages ▸ assigned.stored
          begun := assigned.begun
          entries := inProgress ▸ assigned.entries }
  | fetched message inside inProgress messages =>
      rw [nothing inside]
      exact assigned_after_fetch assigned distinct index inProgress messages
  | restored inside inProgress messages =>
      rw [nothing inside]
      exact assigned_after_restore assigned inProgress messages
  | enqueued message =>
      have more : issued + ↑(Move.outside message).action?.toList = message ::ₘ issued :=
        (add_comm _ _).trans (Multiset.singleton_add _ _)
      rw [more]
      exact assigned_after_enqueue assigned message
  | @reported ticket draw now _ runner result unmarked found reporting =>
      rw [nothing rfl, unmarked]
      cases made : policy.call? runner.message now draw result with
      | none => exact assigned
      | some call =>
          obtain ⟨original, member, id, ceiling⟩ :=
            assigned.begun _ (carried _ (Crew.attempt_of_found found index))
          exact assigned_after_report assigned
            ⟨original, member, id.trans (RetryPolicy.call_id made).symm,
              ceiling.trans (RetryPolicy.call_ceiling made).symm⟩ call.report

end Steps

def FleetEvent.enqueued? : FleetEvent → Option TaskMessage
  | .joined => none
  | .moved _ move _ => move.action?

namespace Fleet

variable {η : Type} {origin fleet : Fleet η} {events : List FleetEvent}

/-- Retry policies decide about the failures of all members. -/
def Governed (fleet : Fleet η) : Prop :=
  ∀ member ∈ fleet.members, ∃ policy : RetryPolicy,
    member.failure = policy.reconcile MemoryQueue.backend

def issued (origin : Fleet η) (events : List FleetEvent) : Multiset TaskMessage :=
  origin.shared.backend.store.messages + ↑(events.filterMap FleetEvent.enqueued?)

theorem issued_concat (origin : Fleet η) (events : List FleetEvent) (event : FleetEvent) :
    origin.issued (events ++ [event]) =
      origin.issued events + ↑event.enqueued?.toList := by
  rw [issued, issued, filter_map_concat, ← Multiset.coe_add, add_assoc]

theorem issued_le (origin : Fleet η) (events more : List FleetEvent) :
    origin.issued events ≤ origin.issued (events ++ more) := by
  rw [issued, issued, List.filterMap_append, ← Multiset.coe_add, ← add_assoc]
  exact Multiset.le_add_right _ _

theorem governed_before_join {processor : Processor (MemoryQueue Party)}
    (governed : (fleet.join processor).Governed) : fleet.Governed := fun member present =>
  governed member (List.mem_append_left _ present)

theorem governed_iff : fleet.Governed ↔
    ∀ failure ∈ fleet.members.map Processor.failure, ∃ policy : RetryPolicy,
      failure = policy.reconcile MemoryQueue.backend := by
  rw [List.forall_mem_map]
  rfl

/-- A move changes no failure handler. -/
theorem governed_after_move {index : Nat} {member : Processor (MemoryQueue Party)}
    {later : Service (MemoryQueue Party) η} (found : fleet.members[index]? = some member)
    (same : later.processor.failure = member.failure) :
    (fleet.advance index later).Governed ↔ fleet.Governed := by
  have failures : (fleet.advance index later).members.map Processor.failure =
      fleet.members.map Processor.failure := by
    apply List.ext_getElem?
    intro place
    rw [List.getElem?_map, List.getElem?_map, advance]
    by_cases own : place = index
    · obtain ⟨inside, _⟩ := List.getElem?_eq_some_iff.mp found
      rw [own, List.getElem?_set_self inside, found, Option.map_some, Option.map_some, same]
    · rw [List.getElem?_set_ne (Ne.symm own)]
  rw [governed_iff, governed_iff, failures]

/-- On a voyage of those who join, with distinct identifiers and nothing in progress at first, what
is in progress belongs to the attempts that stand for it. -/
theorem voyage_assigned (voyage : Voyage origin events fleet) (alone : origin.members = [])
    (idle : origin.shared.backend.store.inProgress = []) (governed : fleet.Governed)
    (distinct : ((origin.issued events).map TaskMessage.id).Nodup) :
    Assigned (origin.issued events) (marksOf events) fleet.shared.backend.store := by
  induction voyage with
  | begin =>
    rw [issued, List.filterMap_nil, Multiset.coe_nil, add_zero]
    exact assigned_at_first idle
  | @join events fleet _ _ processor _ _ ih =>
    rw [issued_concat, marks_concat] at *
    have same : origin.issued events + ↑FleetEvent.joined.enqueued?.toList =
        origin.issued events := add_zero _
    rw [same] at distinct ⊢
    exact ih (governed_before_join governed) distinct
  | @move events fleet index member later voyage handler found move moved ih =>
    have earlier := Multiset.nodup_of_le (Multiset.map_le_map (issued_le origin events _)) distinct
    have settings := service_step_settings (service_step_cases moved)
    have before := (governed_after_move found settings.2).mp governed
    obtain ⟨policy, failure⟩ := before member (List.mem_of_getElem? found)
    obtain ⟨-, marked⟩ := (voyage_marked voyage alone).members index member found
    rw [issued_concat, marks_concat]
    exact assigned_after_move (task_move_cases (service_move_cases moved) failure) marked.carried
      earlier (ih before earlier)

end Fleet

end TaskDispatch
