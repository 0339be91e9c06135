import TaskDispatch.Handling.Handler

/-!
# Typed payloads

A payload type is tied to one task type and travels as JSON. A typed handler is given the decoded
value; a payload that does not decode fails the task without calling it.
-/

namespace TaskDispatch

set_option autoImplicit false

/-- A payload type: its task type and its JSON form. -/
structure Payload (α : Type) where
  taskType : TaskType
  codec : Codec α

namespace Payload

def message {α : Type} (payload : Payload α) (id : TaskId) (value : α) : TaskMessage :=
  .new id payload.taskType (payload.codec.write value)

def handler {α η : Type} (payload : Payload α) (handle : α → η → HandlerCall × η) :
    Handler η := fun task state =>
  match payload.codec.decode task.payload with
  | .ok value => handle value state
  | .error error => (.immediate (.failed (.decode error)), state)

end Payload

end TaskDispatch
