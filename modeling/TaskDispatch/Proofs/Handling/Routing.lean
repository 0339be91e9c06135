import Mathlib.Data.List.Dedup
import Mathlib.Data.List.Induction
import Mathlib.Data.List.Nodup
import TaskDispatch.Handling.Registry

/-!
# The first registration wins

A registry that was empty has been offered handlers, plain and typed ones, in any order and with any
repetition of task types. Of the offers for one type the first is accepted; all others are refused,
and the registry does not change. So it does with a task what the handler of the first offer for the
task's type does, and nothing if there was none. A handler that is itself a registry was filled in
the same way, and routes the task on.
-/

namespace TaskDispatch

set_option autoImplicit false

inductive Registration (η : Type) : Type 1 where
  | plain (taskType : TaskType) (handler : Handler η)
  | typed {α : Type} (payload : Payload α) (handle : α → η → HandlerCall × η)

namespace Registration

variable {η ν : Type}

def taskType : Registration η → TaskType
  | .plain taskType _ => taskType
  | .typed payload _ => payload.taskType

def handler : Registration η → Handler η
  | .plain _ handler => handler
  | .typed payload handle => payload.handler handle

def offer (registry : Registry η) : Registration η → Except RegistryError (Registry η)
  | .plain taskType handler => registry.register taskType handler
  | .typed payload handle => registry.registerTyped payload handle

/-- Both kinds of offers register a handler for a type. -/
theorem offer_eq (registry : Registry η) (call : Registration η) :
    call.offer registry = registry.register call.taskType call.handler := by
  cases call <;> rfl

/-- An offer of the same handler, which notes each of its calls under a name. -/
def traced (name : ν) (call : Registration η) : Registration (η × List ν) :=
  .plain call.taskType fun task state =>
    let (answer, later) := call.handler task state.1
    (answer, later, state.2 ++ [name])

end Registration

namespace Registry

variable {η ν : Type}

/-- The registry after an offer: if it is refused, the registry stays as it was. -/
def after (registry : Registry η) (call : Registration η) : Registry η :=
  match call.offer registry with
  | .ok later => later
  | .error _ => registry

def filled (calls : List (Registration η)) : Registry η := calls.foldl after empty

/-- The same offers with handlers that note their calls under their places in the sequence. -/
def filledTraced (calls : List (Registration η)) : Registry (η × List Nat) :=
  filled (calls.mapIdx Registration.traced)

def first? (calls : List (Registration η)) (taskType : TaskType) : Option (Registration η) :=
  calls.find? fun call => decide (call.taskType = taskType)

/-- A call is the first one of a sequence for its task type: it stands behind calls for others. -/
structure First (calls early : List (Registration η)) (call : Registration η) : Prop where
  place : ∃ late, calls = early ++ call :: late
  others : ∀ earlier ∈ early, earlier.taskType ≠ call.taskType

/-- The handler at which tasks of a type arrive: that of the first offer for the type, or if this is
a registry, the one at which they arrive there. -/
inductive Arrives : List (Registration η) → TaskType → Handler η → Prop where
  | here {calls early : List (Registration η)} {call : Registration η}
      (first : First calls early call) : Arrives calls call.taskType call.handler
  | within {calls early inner : List (Registration η)} {call : Registration η}
      {handler : Handler η} (first : First calls early call)
      (registry : call.handler = (filled inner).handler)
      (arrives : Arrives inner call.taskType handler) : Arrives calls call.taskType handler

theorem get_iff_listed (registry : Registry η) (taskType : TaskType) :
    (registry.get? taskType).isSome = true ↔ taskType ∈ registry.types := by
  obtain ⟨entries⟩ := registry
  unfold get? types
  induction entries with
  | nil => simp
  | cons entry entries ih =>
      obtain ⟨name, handler⟩ := entry
      rw [List.lookup_cons, List.map_cons, List.mem_cons]
      by_cases same : taskType = name
      · simp [same]
      · have differs : (taskType == name) = false := beq_eq_false_iff_ne.mpr same
        rw [differs]
        simp only [same, false_or]
        exact ih

theorem filled_concat (calls : List (Registration η)) (call : Registration η) :
    filled (calls ++ [call]) = (filled calls).after call := by
  rw [filled, List.foldl_concat]
  rfl

theorem first_concat (calls : List (Registration η)) (call : Registration η)
    (taskType : TaskType) :
    first? (calls ++ [call]) taskType =
      (first? calls taskType).or (if call.taskType = taskType then some call else none) := by
  rw [first?, List.find?_append]
  congr 1
  by_cases same : call.taskType = taskType <;> simp [same]

structure FilledBy (calls : List (Registration η)) (registry : Registry η) : Prop where
  found : ∀ taskType, registry.get? taskType = (first? calls taskType).map Registration.handler
  distinct : registry.types.Nodup

/-- An offer for a type that has no handler adds one; any other offer is refused. -/
theorem offer_cases {calls : List (Registration η)} {registry : Registry η}
    (state : FilledBy calls registry) (call : Registration η) :
    (first? calls call.taskType = none ∧
        call.offer registry = .ok ⟨registry.entries ++ [(call.taskType, call.handler)]⟩) ∨
      ((first? calls call.taskType).isSome = true ∧
        call.offer registry = .error (.duplicateHandler call.taskType)) := by
  have known := state.found call.taskType
  rw [call.offer_eq, register]
  cases first : first? calls call.taskType with
  | none =>
      rw [known, first]
      exact .inl ⟨rfl, rfl⟩
  | some earlier =>
      rw [known, first]
      exact .inr ⟨rfl, rfl⟩

theorem filled_by_after {calls : List (Registration η)} {registry : Registry η}
    (state : FilledBy calls registry) (call : Registration η) :
    FilledBy (calls ++ [call]) (registry.after call) := by
  unfold after
  rcases offer_cases state call with ⟨new, accepted⟩ | ⟨known, refused⟩
  · rw [accepted]
    have unlisted : call.taskType ∉ registry.types := by
      rw [← get_iff_listed, state.found, new]
      simp
    constructor
    · intro taskType
      have earlier := state.found taskType
      unfold get? at earlier ⊢
      rw [List.lookup_append, earlier, first_concat]
      by_cases same : call.taskType = taskType
      · subst same
        simp [new]
      · have differs : taskType ≠ call.taskType := Ne.symm same
        cases first? calls taskType <;> simp [differs, same]
    · unfold types
      rw [List.map_append]
      exact List.Nodup.append state.distinct (List.nodup_singleton _)
        (List.disjoint_singleton.mpr unlisted)
  · rw [refused]
    refine ⟨fun taskType => ?_, state.distinct⟩
    rw [state.found, first_concat]
    by_cases same : call.taskType = taskType
    · subst same
      rw [Option.or_of_isSome known]
    · simp [same]

theorem filled_by (calls : List (Registration η)) : FilledBy calls (filled calls) := by
  induction calls using List.reverseRecOn with
  | nil => exact ⟨fun _ => rfl, List.nodup_nil⟩
  | append_singleton calls call ih =>
      rw [filled_concat]
      exact filled_by_after ih call

theorem first_found {calls early : List (Registration η)} {call : Registration η}
    (first : First calls early call) : first? calls call.taskType = some call := by
  obtain ⟨late, rfl⟩ := first.place
  have noneEarlier : (early.find? fun other => decide (other.taskType = call.taskType)) = none := by
    rw [List.find?_eq_none]
    intro other member
    simpa using first.others other member
  rw [first?, List.find?_append, noneEarlier, Option.none_or, List.find?_cons_of_pos]
  simp

theorem first_absent_iff {calls : List (Registration η)} {taskType : TaskType} :
    first? calls taskType = none ↔ ∀ call ∈ calls, call.taskType ≠ taskType := by
  simp [first?]

theorem handled_by_first {calls early : List (Registration η)} {call : Registration η}
    (first : First calls early call) {task : Task} (sent : task.taskType = call.taskType)
    (state : η) : (filled calls).handler task state = call.handler task state := by
  have found := (filled_by calls).found task.taskType
  rw [sent, first_found first] at found
  unfold handler
  rw [sent, found]
  rfl

theorem unhandled {calls : List (Registration η)} {task : Task}
    (unknown : ∀ call ∈ calls, call.taskType ≠ task.taskType) (state : η) :
    (filled calls).handler task state =
      (.immediate (.failed (.handlerNotFound task.taskType)), state) := by
  have found := (filled_by calls).found task.taskType
  rw [first_absent_iff.mpr unknown] at found
  unfold handler
  rw [found]
  rfl

/-- Offers keep their place when their handlers are made to note their calls. -/
theorem first_traced {calls early : List (Registration η)} {call : Registration η}
    (first : First calls early call) :
    First (calls.mapIdx Registration.traced) (early.mapIdx Registration.traced)
      (call.traced early.length) := by
  obtain ⟨⟨late, rfl⟩, others⟩ := first
  constructor
  · exact ⟨_, by rw [List.mapIdx_append, List.mapIdx_cons, Nat.zero_add]⟩
  · intro other member
    obtain ⟨place, inside, rfl⟩ := List.mem_mapIdx.mp member
    exact others _ (List.getElem_mem inside)

theorem unknown_traced {calls : List (Registration η)} {taskType : TaskType}
    (unknown : ∀ call ∈ calls, call.taskType ≠ taskType) :
    ∀ call ∈ (calls.mapIdx Registration.traced : List (Registration (η × List Nat))),
      call.taskType ≠ taskType := by
  intro call member
  obtain ⟨place, inside, rfl⟩ := List.mem_mapIdx.mp member
  exact unknown _ (List.getElem_mem inside)

theorem arrives_at {calls : List (Registration η)} {taskType : TaskType} {handler : Handler η}
    (arrives : Arrives calls taskType handler) {task : Task} (sent : task.taskType = taskType)
    (state : η) : (filled calls).handler task state = handler task state := by
  induction arrives with
  | here first => exact handled_by_first first sent state
  | within first registry _ ih =>
      rw [handled_by_first first sent state, registry]
      exact ih sent

/-- In a registry that was empty and has been offered handlers the first offer for each type wins,
and every task goes to the handler of the first offer for its type, which is called once. -/
structure FirstWins (calls : List (Registration η)) : Prop where
  accepted : ∀ early call late, calls = early ++ call :: late →
    (∀ other ∈ early, other.taskType ≠ call.taskType) →
      call.offer (filled early) = .ok (filled (early ++ [call]))
  refused : ∀ early call late, calls = early ++ call :: late →
    (∃ other ∈ early, other.taskType = call.taskType) →
      call.offer (filled early) = .error (.duplicateHandler call.taskType) ∧
        filled (early ++ [call]) = filled early
  distinct : (filled calls).types.Nodup
  listed : ∀ taskType, taskType ∈ (filled calls).types ↔ ∃ call ∈ calls, call.taskType = taskType
  counted : (filled calls).size = ((calls.map Registration.taskType).dedup).length
  routed : ∀ early call, First calls early call → ∀ task, task.taskType = call.taskType →
    ∀ state, (filled calls).handler task state = call.handler task state
  called_once : ∀ early call, First calls early call → ∀ task, task.taskType = call.taskType →
    ∀ state trace,
      (filledTraced calls).handler task (state, trace) =
        ((call.handler task state).1, (call.handler task state).2, trace ++ [early.length])
  unknown : ∀ task, (∀ call ∈ calls, call.taskType ≠ task.taskType) → ∀ state trace,
    let answer : HandlerCall := .immediate (.failed (.handlerNotFound task.taskType))
    (filled calls).handler task state = (answer, state) ∧
      (filledTraced calls).handler task (state, trace) = (answer, state, trace)
  nested : ∀ taskType handler, Arrives calls taskType handler →
    ∀ task, task.taskType = taskType →
      ∀ state, (filled calls).handler task state = handler task state

theorem first_registration_wins (calls : List (Registration η)) : FirstWins calls := by
  have listed (taskType : TaskType) :
      taskType ∈ (filled calls).types ↔ ∃ call ∈ calls, call.taskType = taskType := by
    rw [← get_iff_listed, (filled_by calls).found, Option.isSome_map, first?, List.find?_isSome]
    simp
  constructor
  case accepted =>
    intro early call late _ new
    rcases offer_cases (filled_by early) call with ⟨_, accepted⟩ | ⟨known, _⟩
    · rw [filled_concat, after, accepted]
    · rw [first_absent_iff.mpr new] at known
      cases known
  case refused =>
    rintro early call late _ ⟨other, member, same⟩
    rcases offer_cases (filled_by early) call with ⟨new, _⟩ | ⟨_, refused⟩
    · exact absurd same (first_absent_iff.mp new other member)
    · refine ⟨refused, ?_⟩
      rw [filled_concat, after, refused]
  case distinct => exact (filled_by calls).distinct
  case listed => exact listed
  case counted =>
    have same : (filled calls).types.Perm (calls.map Registration.taskType).dedup := by
      rw [List.perm_ext_iff_of_nodup (filled_by calls).distinct (List.nodup_dedup _)]
      intro taskType
      rw [listed, List.mem_dedup, List.mem_map]
    have length : (filled calls).size = (filled calls).types.length := (List.length_map _).symm
    rw [length, same.length_eq]
  case routed => exact fun _ _ first _ sent state => handled_by_first first sent state
  case called_once =>
    intro early call first task sent state trace
    exact handled_by_first (first_traced first) sent (state, trace)
  case unknown =>
    intro task unknown state trace
    exact ⟨unhandled unknown state, unhandled (unknown_traced unknown) (state, trace)⟩
  case nested => exact fun _ _ arrives _ sent state => arrives_at arrives sent state

end Registry

end TaskDispatch
