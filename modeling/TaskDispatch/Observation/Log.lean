import TaskDispatch.Task.Error

/-!
# Log entries

Everything that processors, dispatch loops, runners and the retry policy report, with level, text
and fields. The fields of a line are sorted by name.
-/

namespace TaskDispatch

set_option autoImplicit false

inductive LogEntry where
  | processorStarting (concurrency : Nat)
  | restored (count : Nat)
  | restoreFailed (error : BackendError)
  | shuttingDown
  | loopCrashed
  | waitingForWorkers (inFlight : Nat)
  | workersFinished
  | droppedWhileRunning
  | loopStopped
  | fetchFailed (error : BackendError)
  | dequeued (message : TaskMessage)
  | succeeded (message : TaskMessage)
  | completeFailed (id : TaskId) (error : BackendError)
  | failed (message : TaskMessage) (error : TaskError)
  | exhausted (message : TaskMessage)
  | killFailed (id : TaskId) (error : BackendError)
  | retrying (message : TaskMessage)
  | retryFailed (id : TaskId) (error : BackendError)
  deriving DecidableEq

namespace LogEntry

def field (name value : String) : String := " " ++ name ++ "=" ++ value

def idField (id : TaskId) : String := field "task_id" id.display

def typeField (message : TaskMessage) : String := field "task_type" message.taskType

def line : LogEntry → String
  | .processorStarting concurrency =>
      "INFO processor starting" ++ field "concurrency" (toString concurrency)
  | .restored count =>
      "INFO restored unfinished tasks" ++ field "restored" (toString count)
  | .restoreFailed error =>
      "ERROR could not restore unfinished tasks" ++ field "error" error.message
  | .shuttingDown => "INFO processor shutting down"
  | .loopCrashed => "ERROR dispatch loop exited abnormally"
  | .waitingForWorkers inFlight =>
      "INFO waiting for all workers to finish" ++ field "in_flight" (toString inFlight)
  | .workersFinished => "INFO all workers have finished"
  | .droppedWhileRunning =>
      "WARN processor dropped while running; in-flight tasks are not awaited"
  | .loopStopped => "INFO dispatch loop stopped"
  | .fetchFailed error =>
      "ERROR unexpected error while pulling a task out of queue"
        ++ field "error" error.message
  | .dequeued message =>
      "DEBUG dequeued task" ++ field "queue" message.queue ++ idField message.id
        ++ typeField message
  | .succeeded message => "DEBUG task succeeded" ++ idField message.id ++ typeField message
  | .completeFailed id error =>
      "ERROR could not mark task as done" ++ field "error" error.message ++ idField id
  | .failed message error =>
      "WARN task failed" ++ field "error" error.message ++ idField message.id
        ++ typeField message
  | .exhausted message =>
      "WARN retry exhausted, moving task to the dead queue"
        ++ field "retried" (toString message.retried.toNat) ++ idField message.id
        ++ typeField message
  | .killFailed id error =>
      "ERROR could not move task to the dead queue" ++ field "error" error.message
        ++ idField id
  | .retrying message =>
      "INFO scheduling retry" ++ field "retried" (toString message.retried.toNat)
        ++ idField message.id ++ typeField message
  | .retryFailed id error =>
      "ERROR could not schedule task for retry" ++ field "error" error.message ++ idField id

end LogEntry

end TaskDispatch
