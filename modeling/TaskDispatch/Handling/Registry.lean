import TaskDispatch.Handling.Payload

/-!
# Handler registries

A registry sends each task to the handler registered for its type. A type is registered at most
once; a task of another type fails. A registry is a handler itself and may be registered in turn.
-/

namespace TaskDispatch

set_option autoImplicit false

inductive RegistryError where
  | duplicateHandler (taskType : TaskType)
  deriving DecidableEq, Repr

def RegistryError.message : RegistryError → String
  | .duplicateHandler taskType => "duplicate handler for task_type=" ++ taskType

/-- Handlers by task type, in the order of registration. -/
structure Registry (η : Type) where
  entries : List (TaskType × Handler η)

namespace Registry

variable {η : Type}

def empty : Registry η := ⟨[]⟩

def get? (registry : Registry η) (taskType : TaskType) : Option (Handler η) :=
  registry.entries.lookup taskType

def register (registry : Registry η) (taskType : TaskType) (handler : Handler η) :
    Except RegistryError (Registry η) :=
  match registry.get? taskType with
  | some _ => .error (.duplicateHandler taskType)
  | none => .ok ⟨registry.entries ++ [(taskType, handler)]⟩

/-- Adds a typed handler under the task type of its payload. -/
def registerTyped {α : Type} (registry : Registry η) (payload : Payload α)
    (handle : α → η → HandlerCall × η) : Except RegistryError (Registry η) :=
  registry.register payload.taskType (payload.handler handle)

def types (registry : Registry η) : List TaskType := registry.entries.map Prod.fst

def size (registry : Registry η) : Nat := registry.entries.length

def isEmpty (registry : Registry η) : Bool := registry.entries.isEmpty

def handler (registry : Registry η) : Handler η := fun task state =>
  match registry.get? task.taskType with
  | some handle => handle task state
  | none => (.immediate (.failed (.handlerNotFound task.taskType)), state)

end Registry

end TaskDispatch
