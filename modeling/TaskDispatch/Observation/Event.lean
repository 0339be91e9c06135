import TaskDispatch.Task.Error
import TaskDispatch.Time.Timestamp

/-!
# Observable events

What handlers, recording queues and recording failure handlers leave behind, and its wording.
-/

namespace TaskDispatch

set_option autoImplicit false

inductive Event where
  | handlerBegan (task : Task)
  | handlerEnded (task : Task)
  | fetchCalled
  | restoreCalled
  | completeCalled (message : TaskMessage)
  | retryCalled (message : TaskMessage) (retryAt : Timestamp)
  | killCalled (message : TaskMessage)
  | failureHandled (message : TaskMessage) (error : TaskError)
  deriving DecidableEq

namespace Event

/-- The distance of a retry time from an origin in whole seconds, rounded down; the latest
timestamp is shown as such. -/
def delayText (origin retryAt : Timestamp) : String :=
  if retryAt = .latest then "max"
  else toString (Int.fdiv (retryAt.nanos - origin.nanos) nanosPerSecond)

/-- The wording of an event; retry times are shown as delays from the origin. -/
def text (origin : Timestamp) : Event → String
  | .handlerBegan task => "begin " ++ task.taskType ++ " " ++ task.payload.toHex
  | .handlerEnded task => "end " ++ task.taskType ++ " " ++ task.payload.toHex
  | .fetchCalled => "dequeue"
  | .restoreCalled => "restore"
  | .completeCalled message => "complete " ++ message.brief
  | .retryCalled message retryAt =>
      "retry " ++ delayText origin retryAt ++ " " ++ message.brief
  | .killCalled message => "kill " ++ message.brief
  | .failureHandled message error =>
      "failure [" ++ error.message ++ "] " ++ message.brief

end Event

end TaskDispatch
