import TaskDispatch.Task.Id
import TaskDispatch.Json.Record

/-!
# Task messages

A message is a queued unit of work as the queue stores it. A handler sees only its task: the type
and the payload.
-/

namespace TaskDispatch

set_option autoImplicit false

abbrev TaskType := String

structure Task where
  taskType : TaskType
  payload : Bytes
  deriving DecidableEq, Inhabited

/-- A queued unit of work with its bookkeeping: `retry` is how often it may be retried before it is
given up, `retried` how often it has been. -/
structure TaskMessage where
  id : TaskId
  taskType : TaskType
  payload : Bytes
  queue : String
  retry : UInt32
  retried : UInt32
  errorMessage : Option String
  deriving DecidableEq, Inhabited

namespace TaskMessage

def defaultQueue : String := "default"

def defaultRetry : UInt32 := 25

def new (id : TaskId) (taskType : TaskType) (payload : Bytes) : TaskMessage where
  id := id
  taskType := taskType
  payload := payload
  queue := defaultQueue
  retry := defaultRetry
  retried := 0
  errorMessage := none

def task (message : TaskMessage) : Task where
  taskType := message.taskType
  payload := message.payload

def retryExhausted (message : TaskMessage) : Bool := message.retry ≤ message.retried

open Json in
/-- The fields of a message in declaration order; the error text is left out while there is none. -/
def fields :=
  Fields.cons "id" .required TaskId.codec <|
  .cons "task_type" .required .string <|
  .cons "payload" .required (.list .byte) <|
  .cons "queue" .required .string <|
  .cons "retry" .required .word32 <|
  .cons "retried" .required .word32 <|
  .cons "error_msg" (.omitted none Option.isNone) (.optional .string) .nil

def codec : Codec TaskMessage :=
  .record
    { expected := "struct TaskMessage"
      lengthText := "struct TaskMessage with 7 elements"
      fields := fields
      closed := false }
    (fun (id, taskType, payload, queue, retry, retried, errorMessage, ()) =>
      .ok { id, taskType, payload, queue, retry, retried, errorMessage })
    (fun message =>
      (message.id, message.taskType, message.payload, message.queue, message.retry,
        message.retried, message.errorMessage, ()))

def brief (message : TaskMessage) : String :=
  message.id.display ++ " type=" ++ message.taskType
    ++ " payload=" ++ message.payload.toHex
    ++ " queue=" ++ message.queue
    ++ " retried=" ++ toString message.retried.toNat ++ "/" ++ toString message.retry.toNat
    ++ " error=" ++ message.errorMessage.getD "-"

end TaskMessage

end TaskDispatch
