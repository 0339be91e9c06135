import TaskDispatch.Task.Message

/-!
# Failures of tasks and of the queue

Why a task did not complete, and why a queue operation was refused.
-/

namespace TaskDispatch

set_option autoImplicit false

/-- Why a task did not complete: the handler said so, the handler panicked, no handler is
registered for the type, or the payload did not decode. -/
inductive TaskError where
  | failed (message : String)
  | panicked (message : String)
  | handlerNotFound (taskType : TaskType)
  | decode (error : Json.DecodeError)
  deriving DecidableEq, Repr

namespace TaskError

def message : TaskError → String
  | .failed text => text
  | .panicked text => "panic: " ++ text
  | .handlerNotFound taskType => "handler not found for task_type=" ++ taskType
  | .decode error => "payload decode: " ++ error.message

def isPanic : TaskError → Bool
  | .panicked _ => true
  | _ => false

end TaskError

inductive BackendError where
  | unavailable (message : String)
  | malformed (message : String)
  | notFound (id : TaskId)
  | operationFailed (message : String)
  deriving DecidableEq

namespace BackendError

def message : BackendError → String
  | .unavailable text => "backend unavailable: " ++ text
  | .malformed text => "malformed task message: " ++ text
  | .notFound id => id.display ++ " is not in progress"
  | .operationFailed text => "backend operation failed: " ++ text

end BackendError

end TaskDispatch
