import TaskDispatch.Observation.Event

/-!
# Handlers

A handler is given a task and answers with a call: what it shows at once, how long it takes, what it
shows at the end, and its verdict. It may keep a state between calls. A panic is a verdict of its
own; to the runner it counts as a failure with the panic's text.
-/

namespace TaskDispatch

set_option autoImplicit false

inductive PanicPayload where
  | text (message : String)
  | other
  deriving DecidableEq, Repr

def PanicPayload.message : PanicPayload → String
  | .text message => message
  | .other => "unknown panic payload"

inductive Verdict where
  | succeeded
  | failed (error : TaskError)
  | panicked (payload : PanicPayload)
  deriving DecidableEq, Repr

/-- The result of a task whose handler ended so: a panic is caught and becomes an error. -/
def Verdict.result : Verdict → Except TaskError Unit
  | .succeeded => .ok ()
  | .failed error => .error error
  | .panicked payload => .error (.panicked payload.message)

/-- The course of one call of a handler; `pause` is in nanoseconds. -/
structure HandlerCall where
  before : List Event
  pause : Nat
  after : List Event
  verdict : Verdict
  deriving DecidableEq

def HandlerCall.immediate (verdict : Verdict) : HandlerCall where
  before := []
  pause := 0
  after := []
  verdict := verdict

abbrev Handler (η : Type) := Task → η → HandlerCall × η

end TaskDispatch
