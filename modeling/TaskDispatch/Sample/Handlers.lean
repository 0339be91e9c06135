import TaskDispatch.Handling.Registry
import TaskDispatch.Sample.Payloads

/-!
# Sample handlers

Handlers for trying processors out. A behaviour tells how long a call takes and how it ends; a
handler with several behaviours shows them one after the other to the same task, and the last one
from then on. The typed handlers of the sample payloads note what they were given.
-/

namespace TaskDispatch.Sample

set_option autoImplicit false

/-- How a call ends. `eagerPanic` panics before anything else is done. -/
inductive Ending where
  | succeeded
  | failed (error : TaskError)
  | panicked (payload : PanicPayload)
  | eagerPanic (message : String)

/-- One call of a handler; the pause is in nanoseconds. -/
structure Behaviour where
  pause : Nat
  ending : Ending

/-- The state of sample handlers: how often each task has been handled, and the payloads that typed
handlers were given. -/
structure Audience where
  calls : List (Task × Nat)
  seen : List String

namespace Audience

def empty : Audience := ⟨[], []⟩

def callsOf (audience : Audience) (task : Task) : Nat :=
  (audience.calls.find? fun entry => decide (entry.1 = task)).elim 0 Prod.snd

def countCall (audience : Audience) (task : Task) : Audience :=
  let count := audience.callsOf task
  { audience with
    calls := (task, count + 1)
      :: audience.calls.filter fun entry => decide (entry.1 ≠ task) }

def see (audience : Audience) (content : String) : Audience :=
  { audience with seen := audience.seen ++ [content] }

end Audience

namespace Behaviour

def success : Behaviour := ⟨0, .succeeded⟩

def call (behaviour : Behaviour) (task : Task) : HandlerCall :=
  let lasting (verdict : Verdict) : HandlerCall :=
    { before := [.handlerBegan task]
      pause := behaviour.pause
      after := [.handlerEnded task]
      verdict := verdict }
  match behaviour.ending with
  | .succeeded => lasting .succeeded
  | .failed error => lasting (.failed error)
  | .panicked payload => lasting (.panicked payload)
  | .eagerPanic message => .immediate (.panicked (.text message))

/-- The handler that shows these behaviours in turn. -/
def handler (behaviours : List Behaviour) : Handler Audience := fun task audience =>
  let turn := min (audience.callsOf task) (behaviours.length - 1)
  let behaviour := (behaviours[turn]?).getD success
  (behaviour.call task, audience.countCall task)

end Behaviour

def handleHello (greeting : Hello) (audience : Audience) : HandlerCall × Audience :=
  (.immediate .succeeded, audience.see (hello.codec.text greeting))

def handleResize (image : Resize) (audience : Audience) : HandlerCall × Audience :=
  (.immediate
    (if image.width = 0 then .failed (.failed "width must be positive") else .succeeded),
    audience.see (resize.codec.text image))

def handleOrder (goods : Order) (audience : Audience) : HandlerCall × Audience :=
  (.immediate
    (if goods.quantity < 0 then
      .panicked (.text ("negative qty " ++ toString goods.quantity.toInt))
    else .succeeded),
    audience.see (order.codec.text goods))

inductive PayloadKind where
  | hello
  | resize
  | order
  deriving DecidableEq, Repr

namespace PayloadKind

def register (kind : PayloadKind) (registry : Registry Audience) :
    Except RegistryError (Registry Audience) :=
  match kind with
  | .hello => registry.registerTyped Sample.hello handleHello
  | .resize => registry.registerTyped Sample.resize handleResize
  | .order => registry.registerTyped Sample.order handleOrder

def message (kind : PayloadKind) (id : TaskId) (tree : Json) :
    Except Json.DecodeError TaskMessage :=
  match kind with
  | .hello => do .ok (Sample.hello.message id (← Sample.hello.codec.decodeTree tree))
  | .resize => do .ok (Sample.resize.message id (← Sample.resize.codec.decodeTree tree))
  | .order => do .ok (Sample.order.message id (← Sample.order.codec.decodeTree tree))

end PayloadKind

/-- The failure of decoding a text as a greeting, if it is none. -/
def decodeFailure? (content : String) : Option TaskError :=
  match hello.codec.decode (.ofText content) with
  | .ok _ => none
  | .error error => some (.decode error)

end TaskDispatch.Sample
