import TaskDispatch.Proofs.Handling.Routing
import TaskDispatch.Proofs.Json.Derived
import TaskDispatch.Sample.Handlers

/-!
# Typed payloads reach their handlers

A value of a payload type is written into a message, the task of the message is routed by its type,
and the handler that was registered first for the type decodes the payload. If the codec of the type
is derived, the value that comes out is the one that went in. That the typed handler is called once,
or not at all, is told by what it notes: it writes down the values that it is given, and all other
handlers of the registry leave the notes alone.
-/

namespace TaskDispatch

set_option autoImplicit false

/-- An error is the one that the handler failed with, or tells the text of its panic. -/
theorem Verdict.error_is_own {verdict : Verdict} {error : TaskError}
    (result : verdict.result = .error error) :
    verdict = .failed error ∨
      ∃ carried : PanicPayload, verdict = .panicked carried ∧
        error = .panicked carried.message := by
  cases verdict with
  | succeeded => cases result
  | failed own => exact .inl (congrArg Verdict.failed (Except.error.inj result))
  | panicked carried => exact .inr ⟨carried, rfl, (Except.error.inj result).symm⟩

/-! ## Notes of the values that a handler is given -/

namespace Registration

variable {η ν α : Type}

/-- An offer of the same handler, which leaves the notes of another one alone. -/
def beside (ν : Type) (call : Registration η) : Registration (η × List ν) :=
  .plain call.taskType fun task state =>
    let (answer, later) := call.handler task state.1
    (answer, later, state.2)

def noting (handle : α → η → HandlerCall × η) (value : α) (state : η × List α) :
    HandlerCall × (η × List α) :=
  let (answer, later) := handle value state.1
  (answer, later, state.2 ++ [value])

/-- An offer of a handler that does the same as another one, and may take notes. -/
structure Notes (noted : Registration (η × List ν)) (call : Registration η) : Prop where
  same_type : noted.taskType = call.taskType
  same_answer : ∀ task state notes, ∃ more,
    noted.handler task (state, notes) =
      ((call.handler task state).1, (call.handler task state).2, notes ++ more)

theorem notes_beside (call : Registration η) : Notes (call.beside ν) call where
  same_type := rfl
  same_answer := fun _ _ notes => ⟨[], by rw [List.append_nil]; rfl⟩

theorem notes_noting (payload : Payload α) (handle : α → η → HandlerCall × η) :
    Notes (.typed payload (noting handle)) (.typed payload handle) where
  same_type := rfl
  same_answer := by
    intro task state notes
    simp only [handler, Payload.handler]
    cases payload.codec.decode task.payload with
    | ok value => exact ⟨[value], rfl⟩
    | error error => exact ⟨[], by rw [List.append_nil]⟩

end Registration

namespace Registry

variable {η ν : Type}

/-- The first offer for a type stands at the same place among offers that take notes. -/
theorem first_notes {noted : List (Registration (η × List ν))} {calls : List (Registration η)}
    (notes : List.Forall₂ Registration.Notes noted calls) (taskType : TaskType) :
    Option.Rel Registration.Notes (first? noted taskType) (first? calls taskType) := by
  induction notes with
  | nil => exact .none
  | cons own _ ih =>
    unfold first? at ih ⊢
    rw [List.find?_cons, List.find?_cons, own.same_type]
    split
    · exact .some own
    · exact ih

/-- Notes change nothing in what a registry does. -/
theorem notes_change_nothing {noted : List (Registration (η × List ν))}
    {calls : List (Registration η)} (notes : List.Forall₂ Registration.Notes noted calls)
    (task : Task) (state : η) (before : List ν) : ∃ more,
      (filled noted).handler task (state, before) =
        (((filled calls).handler task state).1, ((filled calls).handler task state).2,
          before ++ more) := by
  have first := first_notes notes task.taskType
  unfold handler
  rw [(filled_by noted).found, (filled_by calls).found]
  generalize first? noted task.taskType = one at first ⊢
  generalize first? calls task.taskType = other at first ⊢
  cases first with
  | none => exact ⟨[], by rw [List.append_nil]; rfl⟩
  | some own => exact own.same_answer task state before

end Registry

/-! ## The way of a value from a message to its handler -/

namespace Payload

variable {α η : Type}

/-- A registry that a typed handler was offered to, between other offers. -/
def registry (payload : Payload α) (handle : α → η → HandlerCall × η)
    (early late : List (Registration η)) : Registry η :=
  .filled (early ++ .typed payload handle :: late)

def notingRegistry (payload : Payload α) (handle : α → η → HandlerCall × η)
    (early late : List (Registration η)) : Registry (η × List α) :=
  .filled (early.map (.beside α) ++
    .typed payload (Registration.noting handle) :: late.map (.beside α))

/-- The values of a payload type reach the typed handler: it is called once, with the value that was
written, and what it answers is the answer, so there is no error but its own. A payload that does not
decode fails the task and does not reach the handler. -/
structure Reaches (payload : Payload α) (handle : α → η → HandlerCall × η)
    (early late : List (Registration η)) : Prop where
  decoded : ∀ id value,
    payload.codec.decode (payload.message id value).task.payload = .ok value
  answered : ∀ id value state,
    (payload.registry handle early late).handler (payload.message id value).task state =
      handle value state
  no_other_error : ∀ id value state error,
    ((payload.registry handle early late).handler
        (payload.message id value).task state).1.verdict.result = .error error →
      (handle value state).1.verdict = .failed error ∨
        ∃ carried : PanicPayload, (handle value state).1.verdict = .panicked carried ∧
          error = .panicked carried.message
  called_once : ∀ id value state given,
    (payload.notingRegistry handle early late).handler (payload.message id value).task
        (state, given) =
      ((handle value state).1, (handle value state).2, given ++ [value])
  undecodable : ∀ content error, payload.codec.decode content = .error error → ∀ state given,
    (payload.registry handle early late).handler ⟨payload.taskType, content⟩ state =
        (.immediate (.failed (.decode error)), state) ∧
      (payload.notingRegistry handle early late).handler ⟨payload.taskType, content⟩
          (state, given) =
        (.immediate (.failed (.decode error)), state, given)
  only_notes : ∀ task state given, ∃ more,
    (payload.notingRegistry handle early late).handler task (state, given) =
      (((payload.registry handle early late).handler task state).1,
        ((payload.registry handle early late).handler task state).2, given ++ more)

/-- So it is in every registry to which no handler for the task type was offered before. -/
def AlwaysReaches (payload : Payload α) : Prop :=
  ∀ {η : Type} (handle : α → η → HandlerCall × η) (early late : List (Registration η)),
    (∀ other ∈ early, other.taskType ≠ payload.taskType) → payload.Reaches handle early late

/-- The typed handler answers for the tasks of its type if no earlier offer was for this type. -/
theorem answered_by_first {payload : Payload α} {early : List (Registration η)}
    (first : ∀ other ∈ early, other.taskType ≠ payload.taskType)
    (handle : α → η → HandlerCall × η) (late : List (Registration η)) {task : Task}
    (sent : task.taskType = payload.taskType) (state : η) :
    (payload.registry handle early late).handler task state =
      payload.handler handle task state := by
  have place : Registry.First (early ++ .typed payload handle :: late) early
      (.typed payload handle) := ⟨⟨late, rfl⟩, first⟩
  exact Registry.handled_by_first place sent state

theorem first_beside {early : List (Registration η)} {taskType : TaskType}
    (first : ∀ other ∈ early, other.taskType ≠ taskType) :
    ∀ other ∈ early.map (Registration.beside α), other.taskType ≠ taskType := by
  intro other member
  obtain ⟨call, listed, rfl⟩ := List.mem_map.mp member
  exact first call listed

theorem registry_notes (payload : Payload α) (handle : α → η → HandlerCall × η)
    (early late : List (Registration η)) :
    List.Forall₂ Registration.Notes
      (early.map (.beside α) ++
        .typed payload (Registration.noting handle) :: late.map (.beside α))
      (early ++ .typed payload handle :: late) := by
  have beside (calls : List (Registration η)) :
      List.Forall₂ Registration.Notes (calls.map (.beside α)) calls :=
    List.forall₂_map_left_iff.mpr (List.forall₂_same.mpr fun call _ => call.notes_beside)
  exact List.rel_append (beside early)
    (.cons (Registration.notes_noting payload handle) (beside late))

/-- Values that a codec is faithful about reach the handler. -/
theorem always_reaches_of_faithful {payload : Payload α}
    (faithful : ∀ value, payload.codec.Faithful value) : payload.AlwaysReaches := by
  intro η handle early late first
  have decoded (id : TaskId) (value : α) :
      payload.codec.decode (payload.message id value).task.payload = .ok value :=
    (faithful value).decode_write
  have answered (id : TaskId) (value : α) (state : η) :
      (payload.registry handle early late).handler (payload.message id value).task state =
        handle value state := by
    rw [answered_by_first first handle late rfl]
    simp only [handler, decoded]
  constructor
  case decoded => exact decoded
  case answered => exact answered
  case no_other_error =>
    intro id value state error result
    rw [answered] at result
    exact Verdict.error_is_own result
  case called_once =>
    intro id value state given
    have noted := answered_by_first (first_beside first) (Registration.noting handle)
      (late.map (.beside α)) (show (payload.message id value).task.taskType = _ from rfl)
      (state, given)
    simp only [handler, decoded] at noted
    exact noted
  case undecodable =>
    intro content error refused state given
    have sent : (⟨payload.taskType, content⟩ : Task).taskType = payload.taskType := rfl
    have own := answered_by_first first handle late sent state
    have noted := answered_by_first (first_beside first) (Registration.noting handle)
      (late.map (.beside α)) sent (state, given)
    simp only [handler, refused] at own noted
    exact ⟨own, noted⟩
  case only_notes =>
    exact fun task state given =>
      Registry.notes_change_nothing (payload.registry_notes handle early late) task state given

end Payload

/-! ## The sample payloads -/

namespace Sample

theorem hello_derived : hello.codec.Derived :=
  .record (.written .string (fun _ => rfl) .nil) (by decide) fun _ => rfl

theorem resize_derived : resize.codec.Derived :=
  .record (.written Codec.word32_derived (fun _ => rfl) .nil) (by decide) fun _ => rfl

theorem order_derived : order.codec.Derived := by
  refine .record ?_ (by decide) fun _ => rfl
  exact
    .written Codec.word64_derived (fun _ => rfl) <|
    .written Codec.int32_derived (fun _ => rfl) <|
    .written (.list .string) (fun _ => rfl) <|
    .written Codec.optional_string_derived (fun _ => rfl) <|
    .written .boolean (fun _ => rfl) .nil

end Sample

/-- The values of the sample payloads, and of every other payload type with a derived codec, reach the
typed handler that was offered first for the task type, whatever else the registry was offered. -/
theorem typed_values_reach_their_handler :
    Sample.hello.AlwaysReaches ∧ Sample.resize.AlwaysReaches ∧ Sample.order.AlwaysReaches ∧
      ∀ {α : Type} (payload : Payload α), payload.codec.Derived → payload.AlwaysReaches := by
  have reaches {α : Type} (payload : Payload α) (derived : payload.codec.Derived) :
      payload.AlwaysReaches := Payload.always_reaches_of_faithful derived.faithful
  exact ⟨reaches _ Sample.hello_derived, reaches _ Sample.resize_derived,
    reaches _ Sample.order_derived, reaches⟩

/-- An order at the limits of its numbers, with an empty text, escapes and characters of all widths,
in a registry where its handler stands between others. -/
theorem extreme_order_reaches_its_handler :
    let goods : Sample.Order :=
      { id := 18446744073709551615
        quantity := -2147483648
        tags := ["", "\"\\\n\x00", "aé→𝄞"]
        note := some "null"
        urgent := true }
    let early : List (Registration Sample.Audience) :=
      [.plain "image.resize.v1" (Sample.Behaviour.handler []),
        .typed Sample.hello Sample.handleHello]
    let late : List (Registration Sample.Audience) :=
      [.plain "shop.order.v2" (Sample.Behaviour.handler []),
        .typed Sample.resize Sample.handleResize]
    let registry := Sample.order.registry Sample.handleOrder early late
    Sample.order.codec.Derived ∧ (∀ other ∈ early, other.taskType ≠ Sample.order.taskType) ∧
      (registry.handler (Sample.order.message (.ofNat 7) goods).task .empty).1.verdict.result =
        .error (.panicked "negative qty -2147483648") := by
  intro goods early late registry
  have first : ∀ other ∈ early, other.taskType ≠ Sample.order.taskType := by
    intro other member
    rcases List.mem_pair.mp member with rfl | rfl <;> decide
  have reaches := typed_values_reach_their_handler.2.2.2 Sample.order Sample.order_derived
    Sample.handleOrder early late first
  refine ⟨Sample.order_derived, first, ?_⟩
  rw [reaches.answered]
  decide

end TaskDispatch
